import Lalr.Proofs.Forest.Reach
import Lalr.Proofs.Traversal.Meanings

/-!
# What handlers answer

A family of handlers is known by what it makes of trees and tokens, by how these look. The
handlers of a transformer answer what the family means if they do nothing but that, and if
their answers lie in what they have been called with and in what is new. What a transformer
makes of a node whose children have been transformed then follows from the family, whichever
way it calls the handlers.
-/

namespace Lalr

open Forest

namespace Run

variable {α : Type} {run : Run α} {before : Workspace} {holds : Forest → α → Prop}
  {look : Appearance} {inside : NodeId → Prop}

/-- Whether a run adds to the forest only, and comes to a value that looks like something and
reaches only some nodes and new ones. -/
def Brings (run : Run Value) (before : Workspace) (look : Appearance) (inside : NodeId → Prop) :
    Prop :=
  run.Adds before fun forest value => forest.Appears [] value look ∧
    ∀ id, forest.Reaches value id → inside id ∨ before.forest.nodes.size ≤ id.index

/-- What a run has added before counts as new. -/
theorem Brings.after {rest : α → Run Value} (first : run.Adds before holds)
    (second : ∀ {given between}, before.forest.Preserves true between.forest [] →
      holds between.forest given → (rest given).Brings between look fun id =>
        inside id ∨ before.forest.nodes.size ≤ id.index) :
    (run >>= rest).Brings before look inside := by
  rcases first with ⟨given, between, yields, preserves, known⟩
  rcases second preserves known with ⟨value, after, yields', preserves', appears, reaches⟩
  refine ⟨value, after, yields_bind.mpr ⟨given, between, yields, yields'⟩,
    preserves.trans preserves', appears, fun id reached => ?_⟩
  rcases reaches id reached with old | new
  · exact old
  · exact .inr (Nat.le_trans (DiffersAt.size_le_of_preserves preserves) new)

theorem Brings.congr {run run' : Run Value} (brings : run.Brings before look inside)
    (same : ∀ {value after}, run'.Yields before value after ↔ run.Yields before value after) :
    run'.Brings before look inside := by
  rcases brings with ⟨value, after, yields, known⟩
  exact ⟨value, after, same.mpr yields, known⟩

theorem Brings.mono {run : Run Value} {more : NodeId → Prop}
    (brings : run.Brings before look inside)
    (weaker : ∀ id, inside id → more id ∨ before.forest.nodes.size ≤ id.index) :
    run.Brings before look more := by
  rcases brings with ⟨value, after, yields, preserves, appears, reaches⟩
  refine ⟨value, after, yields, preserves, appears, fun id reached => ?_⟩
  exact (reaches id reached).elim (weaker id) .inr

end Run

/-- What a family of handlers answers, by how it looks: for which labels and kinds of tokens there
is a handler, what it makes of a tree with some children, and what it makes of a token. -/
structure Meaning where
  handles : String → Bool
  ofTree : String → List Appearance → Appearance
  ofToken : Token → Appearance

namespace Meaning

/-- What is made of a tree whose children have been transformed. A tree without a handler is rebuilt
as it is. -/
def made (meaning : Meaning) (label : String) (span : Span) (children : List Appearance) :
    Appearance :=
  if meaning.handles label then meaning.ofTree label children
  else .node label span false children

/-- What is made of a token. -/
def answer (meaning : Meaning) (token : Token) : Appearance :=
  if meaning.handles token.kind then meaning.ofToken token else .plain (.token token)

mutual

/-- What a value is turned into, by how it looks. -/
def turn (meaning : Meaning) (visitsTokens : Bool) : Appearance → Appearance
  | .plain (.token token) => if visitsTokens then meaning.answer token else .plain (.token token)
  | .plain value => .plain value
  | .sequence items => .sequence items
  | .node label span _ children => meaning.made label span (meaning.turnAll visitsTokens children)

/-- What some values are turned into one by one, without those that are discarded. -/
def turnAll (meaning : Meaning) (visitsTokens : Bool) : List Appearance → List Appearance
  | [] => []
  | item :: rest =>
    match meaning.turn visitsTokens item with
    | .plain .discard => meaning.turnAll visitsTokens rest
    | result => result :: meaning.turnAll visitsTokens rest

end

variable {meaning : Meaning} {visitsTokens : Bool} {item : Appearance}

theorem turnAll_of_discard (discarded : meaning.turn visitsTokens item = .plain .discard)
    (rest : List Appearance) :
    meaning.turnAll visitsTokens (item :: rest) = meaning.turnAll visitsTokens rest := by
  rw [turnAll, discarded]

theorem turnAll_of_present (present : meaning.turn visitsTokens item ≠ .plain .discard)
    (rest : List Appearance) :
    meaning.turnAll visitsTokens (item :: rest) =
      meaning.turn visitsTokens item :: meaning.turnAll visitsTokens rest := by
  rw [turnAll]
  split
  next discarded => exact absurd discarded present
  next => rfl

end Meaning

/-- Whether a handler that is called with values of some look does nothing but to answer with a
value of some look, which reaches what it has been called with and what is new, and nothing else. -/
def Handler.Answers (handler : Handler) (seen : List Appearance) (answer : Appearance) : Prop :=
  ∀ (before : Workspace) (values : List Value), before.forest.AllAppear [] values seen →
    (handler.call values).Brings before answer fun id =>
      ∃ given ∈ values, before.forest.Reaches given id

namespace Transformer

/-- How the values look that a handler is called with for a tree. A transformer that goes once
through the nodes of a tree hands the node itself to a handler without a convention. -/
def argumentsSeen (kind : TransformerKind) (convention : Option Convention) (label : String)
    (span : Span) (variant : Bool) (children : List Appearance) : List Appearance :=
  if kind = .inPlace && convention.isNone then [.node label span variant children]
  else Handler.argumentsSeen convention label span children

/-- Whether the handlers of a transformer answer what a family means, with nothing else done for the
labels and kinds that they leave out. What they answer for a tree does not depend on its span. -/
structure Computes (transformer : Transformer) (meaning : Meaning) : Prop where
  fallback : transformer.fallback = none
  tokenFallback : transformer.tokenFallback = none
  handles : ∀ name, (transformer.handlerFor? name).isSome = meaning.handles name
  spanless : ∀ {name handler}, transformer.handlerFor? name = some handler →
    Handler.wantsSpan handler.convention = false
  ofTree : ∀ {name handler}, transformer.handlerFor? name = some handler →
    ∀ span variant children,
      handler.Answers (argumentsSeen transformer.kind handler.convention name span variant children)
        (meaning.ofTree name children)
  ofToken : ∀ {token handler}, transformer.handlerFor? token.kind = some handler →
    handler.Answers [.plain (.token token)] (meaning.ofToken token)

end Transformer

namespace Handler

variable {before after : Workspace} {children : SequenceId} {items values : List Value}

/-- A new node reaches itself and what its children reach. -/
theorem reaches_addNode {label : String} {span : Option SpanId} {seen : List Appearance}
    (held : before.forest.sequences[children.index]? = some items)
    (appear : before.forest.AllAppear [] items seen) {id : NodeId}
    (reaches : (before.forest.addNode { label, children, span }).2.Reaches
      (.node (before.forest.addNode { label, children, span }).1) id) :
    (∃ item ∈ items, before.forest.Reaches item id) ∨
      before.forest.nodes.size ≤ id.index := by
  cases reaches with
  | self => exact .inr (Nat.le_refl _)
  | child has member reaches =>
      have planted : Preserves true before.forest _ [] :=
        .addNode before.forest { label, children, span }
      have new : (before.forest.addNode { label, children, span }).2.HasNode
          (before.forest.addNode { label, children, span }).1 label items :=
        ⟨{ label, children, span }, by simp [addNode], rfl, planted.sequence (by simp) held⟩
      rcases has.children_unique new with rfl
      rcases appear.exists_of_mem member with ⟨_, _, appears⟩
      have differs : before.forest.DiffersAt
          (before.forest.addNode { label, children, span }).2 fun _ => False :=
        .of_preserves planted
      exact .inl ⟨_, member, reaches.earlier differs appears fun _ _ => not_false⟩

/-- A handler is called with what lies in the children of a tree and with what is new. -/
theorem arguments_reach {convention : Option Convention} {label : String} {span : Option SpanId}
    {seen : List Appearance}
    (gives : (arguments convention label children span).Gives before values after)
    (spanless : wantsSpan convention = false)
    (held : before.forest.sequences[children.index]? = some items)
    (appear : before.forest.AllAppear [] items seen) {given : Value} (listed : given ∈ values)
    {id : NodeId} (reaches : after.forest.Reaches given id) :
    (∃ item ∈ items, before.forest.Reaches item id) ∨
      before.forest.nodes.size ≤ id.index := by
  have same : before.forest.items children = items := by simp [Forest.items, held]
  cases convention with
  | none =>
      cases gives
      rcases List.mem_singleton.mp listed with rfl
      cases reaches with
      | item held' member reaches =>
          rcases Option.some.inj (held.symm.trans held') with rfl
          exact .inl ⟨_, member, reaches⟩
  | some convention =>
      cases convention with
      | span => cases spanless
      | spanInline => cases spanless
      | inline =>
          cases gives
          exact .inl ⟨given, same ▸ listed, reaches⟩
      | labelled =>
          cases gives
          rcases List.mem_cons.mp listed with rfl | listed
          · exact absurd reaches (not_reaches_plain rfl)
          · exact .inl ⟨given, same ▸ listed, reaches⟩
      | tree =>
          cases gives
          rcases List.mem_singleton.mp listed with rfl
          exact reaches_addNode held appear reaches

/-- What a handler answers for a tree lies in the children of the tree and in what is new. -/
theorem Answers.apply {handler : Handler} {label : String} {look : Span} {span : Option SpanId}
    {seen : List Appearance} {answer : Appearance}
    (answers : handler.Answers (argumentsSeen handler.convention label look seen) answer)
    (spanless : wantsSpan handler.convention = false)
    (held : before.forest.sequences[children.index]? = some items)
    (appear : before.forest.AllAppear [] items seen)
    (covers : before.forest.seenSpan true { label, children, span } = some look) :
    (handler.apply label children span).Brings before answer fun target =>
      ∃ item ∈ items, before.forest.Reaches item target := by
  rcases arguments_appear spanless held appear List.not_mem_nil covers with
    ⟨values, between, yields, preserves, given⟩
  rcases answers _ _ given with ⟨value, after, called, preserves', appears, reaches⟩
  refine ⟨value, after, Run.yields_bind.mpr ⟨values, between, yields, called⟩,
    preserves.trans preserves', appears, fun target reached => ?_⟩
  rcases reaches target reached with ⟨given, listed, old⟩ | new
  · exact arguments_reach (Run.yields_work.mp yields) spanless held appear listed old
  · exact .inr (Nat.le_trans (DiffersAt.size_le_of_preserves preserves) new)

/-- What a handler answers that is called with a node lies in the node, in its children and in what
is new. -/
theorem Answers.alone {handler : Handler} {id : NodeId} {label : String} {look answer : Appearance}
    (answers : handler.Answers [look] answer) (appears : before.forest.Appears [] (.node id) look)
    (has : before.forest.HasNode id label items) :
    (handler.call [.node id]).Brings before answer fun target =>
      target = id ∨ ∃ item ∈ items, before.forest.Reaches item target := by
  refine (answers _ _ (.cons appears .nil)).mono fun target reached => .inl ?_
  rcases reached with ⟨_, listed, reaches⟩
  rcases List.mem_singleton.mp listed with rfl
  cases reaches with
  | self => exact .inl rfl
  | child has' member reaches =>
      rcases has'.children_unique has with rfl
      exact .inr ⟨_, member, reaches⟩

end Handler

namespace Transformer

variable {transformer : Transformer} {meaning : Meaning} {before : Workspace} {id : NodeId}
  {children : SequenceId} {node : Node} {items : List Value} {seen : List Appearance}
  {label : String} {span : Span} {variant : Bool}

/-- What is rebuilt lies in the children of a tree and is new otherwise. -/
theorem rebuild_brings {look : Span} {span : Option SpanId} (fallback : transformer.fallback = none)
    (held : before.forest.sequences[children.index]? = some items)
    (appear : before.forest.AllAppear [] items seen)
    (covers : before.forest.seenSpan true { label, children, span } = some look) :
    (transformer.rebuild label children span).Brings before (.node label look false seen)
      fun target => ∃ item ∈ items, before.forest.Reaches item target := by
  simp only [rebuild, fallback]
  have planted : Preserves true before.forest _ [] :=
    .addNode before.forest { label, children, span }
  have appears := appears_addNode held appear List.not_mem_nil covers
  refine ⟨_, _, Run.yields_bind.mpr ⟨_, _, Run.yields_plant.mpr ⟨rfl, rfl⟩,
    Run.yields_pure.mpr ⟨rfl, rfl⟩⟩, planted, appears, fun target reaches => ?_⟩
  exact Handler.reaches_addNode held appear reaches

/-- What is made of a node whose children have been transformed looks like what the family means by
it, and lies in these children, the node itself and what is new. -/
theorem Computes.transformNode_brings (computes : transformer.Computes meaning)
    (found : before.forest.nodes[id.index]? = some node)
    (looks : before.forest.NodeLooks node label span variant)
    (held : before.forest.sequences[children.index]? = some items)
    (appear : before.forest.AllAppear [] items seen)
    (own : transformer.kind = .inPlace → node.children = children) :
    (transformer.transformNode id children).Brings before (meaning.made label span seen)
      fun target => (transformer.kind = .inPlace ∧ target = id) ∨
        ∃ item ∈ items, before.forest.Reaches item target := by
  have named : before.forest.label id = label := by
    rw [← looks.label]
    simp [Forest.label, Forest.node, found]
  unfold transformNode Meaning.made
  refine .after .look ?_
  rintro _ between - ⟨same, rfl⟩
  rw [← same] at found looks held appear named ⊢
  rw [named, ← computes.handles]
  refine .after (openSpan_adds found looks.span) fun {opened after} preserves covered => ?_
  have covers : after.forest.seenSpan true { label, children, span := some opened } = some span :=
    covered
  have differs : between.forest.DiffersAt after.forest fun _ => False := .of_preserves preserves
  have stillHeld := preserves.sequence (by simp) held
  have stillAppear := appear.stay preserves
  have earlier {target : NodeId} (reached : ∃ item ∈ items, after.forest.Reaches item target) :
      ∃ item ∈ items, between.forest.Reaches item target := by
    rcases reached with ⟨item, member, reaches⟩
    rcases appear.exists_of_mem member with ⟨_, _, appears⟩
    exact ⟨item, member, reaches.earlier differs appears fun _ _ => not_false⟩
  cases handles : transformer.handlerFor? label with
  | none =>
      exact (rebuild_brings computes.fallback stillHeld stillAppear covers).mono
        fun target reached => .inl (.inl (.inl (.inr (earlier reached))))
  | some handler =>
      refine Run.Brings.congr ?_ reporting_yields
      have answers : handler.Answers
          (argumentsSeen transformer.kind handler.convention label span variant seen)
          (meaning.ofTree label seen) := computes.ofTree handles span variant seen
      unfold argumentsSeen at answers
      by_cases alone : (transformer.kind = .inPlace && handler.convention.isNone) = true
      · rw [if_pos alone] at answers ⊢
        have inPlace : transformer.kind = .inPlace := by
          simpa using (Bool.and_eq_true_iff.mp alone).1
        rw [← own inPlace] at held
        have appears : between.forest.Appears [] (.node id) (.node label span variant seen) :=
          .node found looks List.not_mem_nil held appear
        rcases differs.hasNode found looks held not_false with
          ⟨kept, foundKept, looksKept, heldKept⟩
        have has : after.forest.HasNode id label items :=
          ⟨kept, foundKept, looksKept.label, heldKept⟩
        exact (answers.alone (appears.stay preserves) has).mono fun target reached =>
          .inl (.inl (.inl (reached.imp (fun same => ⟨inPlace, same⟩) earlier)))
      · rw [if_neg alone] at answers ⊢
        exact (answers.apply (computes.spanless handles) stillHeld stillAppear covers).mono
          fun target reached => .inl (.inl (.inl (.inr (earlier reached))))

/-- What is made of a token looks like what the family means by it, and lies in what is new. -/
theorem Computes.transformToken_brings (computes : transformer.Computes meaning) (token : Token) :
    (transformer.transformToken token).Brings before (meaning.answer token) fun _ => False := by
  unfold transformToken Meaning.answer
  rw [← computes.handles]
  cases handles : transformer.handlerFor? token.kind with
  | none =>
      simp only [computes.tokenFallback]
      exact .pure ⟨.plain rfl, fun target reaches => absurd reaches (not_reaches_plain rfl)⟩
  | some handler =>
      have answers : handler.Answers [.plain (.token token)] (meaning.ofToken token) :=
        computes.ofToken handles
      refine Run.Brings.congr ?_ reporting_yields
      refine (answers _ _ (.cons (.plain rfl) .nil)).mono fun target reached => ?_
      rcases reached with ⟨_, listed, reaches⟩
      rcases List.mem_singleton.mp listed with rfl
      exact absurd reaches (not_reaches_plain rfl)

end Transformer

end Lalr
