import Lalr.Traversal.Transformer
import Lalr.Proofs.Forest.Appearances
import Lalr.Proofs.Shaping.Positions

/-!
# What pure handlers mean

A pure handler gives a value whose look follows from how the values look that it is called
with. It may add to the forest, and it may give back what it has been given, but it gets
hold of nothing else. What a transformer with such handlers makes of a tree therefore
follows from how the tree looks.
-/

namespace Lalr

open Forest

namespace Run

variable {α β : Type} {run : Run α} {before between after : Workspace} {value : α}

theorem Yields.unique {value' : α} {after' : Workspace} (yields : run.Yields before value after)
    (yields' : run.Yields before value' after') : value = value' ∧ after = after' := by
  unfold Yields at yields yields'
  rw [yields] at yields'
  cases yields'
  exact ⟨rfl, rfl⟩

/-- Whether a run succeeds, adding to the forest only, with a value of which something holds. -/
def Adds (run : Run α) (before : Workspace) (holds : Forest → α → Prop) : Prop :=
  ∃ value after, run.Yields before value after ∧
    before.forest.Preserves true after.forest [] ∧
    holds after.forest value

variable {holds : Forest → α → Prop} {holds' : Forest → β → Prop}

theorem Adds.pure (known : holds before.forest value) : (pure value : Run α).Adds before holds :=
  ⟨value, before, yields_pure.mpr ⟨rfl, rfl⟩, .refl _ _, known⟩

/-- A run that comes after one that adds to the forest goes on with what that one has left. -/
theorem Adds.bind {rest : α → Run β} (first : run.Adds before holds)
    (second : ∀ {given between}, before.forest.Preserves true between.forest [] →
      holds between.forest given → (rest given).Adds between holds') :
    (run >>= rest).Adds before holds' := by
  rcases first with ⟨given, between, yields, preserves, known⟩
  rcases second preserves known with ⟨value, after, yields', preserves', known'⟩
  exact ⟨value, after, yields_bind.mpr ⟨given, between, yields, yields'⟩,
    preserves.trans preserves', known'⟩

theorem Adds.look {look : Forest → α} :
    (Work.look look : Run α).Adds before fun forest value =>
      forest = before.forest ∧ value = look before.forest :=
  ⟨_, before, yields_look.mpr ⟨rfl, rfl⟩, .refl _ _, rfl, rfl⟩

theorem Adds.plant {plant : Forest → α × Forest}
    (preserves : before.forest.Preserves true (plant before.forest).2 [])
    (known : holds (plant before.forest).2 (plant before.forest).1) :
    (Work.plant plant : Run α).Adds before holds :=
  ⟨_, _, yields_plant.mpr ⟨rfl, rfl⟩, preserves, known⟩

/-- Whether a run comes to a value that looks like something outside of some sequences, if it is
meant to, and fails otherwise. -/
def Comes (run : Run Value) (before : Workspace) (own : List SequenceId) :
    Option Appearance → Prop
  | some appearance => run.Adds before fun forest value => forest.Appears own value appearance
  | none => ∀ value after, ¬run.Yields before value after

theorem Comes.of_yields {run : Run Value} {own : List SequenceId} {meant : Option Appearance}
    {value : Value} (comes : run.Comes before own meant) (yields : run.Yields before value after) :
    ∃ appearance, meant = some appearance ∧ before.forest.Preserves true after.forest [] ∧
      after.forest.Appears own value appearance := by
  cases meant with
  | none => exact absurd yields (comes value after)
  | some appearance =>
      rcases comes with ⟨_, _, yields', preserves, appears⟩
      rcases yields'.unique yields with ⟨rfl, rfl⟩
      exact ⟨appearance, rfl, preserves, appears⟩

/-- A run that comes after one that adds to the forest comes to what it comes to where that one has
left off. -/
theorem Comes.bind {rest : α → Run Value} {own : List SequenceId} {meant : Option Appearance}
    (first : run.Adds before holds)
    (second : ∀ {given between}, before.forest.Preserves true between.forest [] →
      holds between.forest given → (rest given).Comes between own meant) :
    (run >>= rest).Comes before own meant := by
  cases meant with
  | some appearance =>
      show (run >>= rest).Adds before fun forest value => forest.Appears own value appearance
      exact first.bind second
  | none =>
      intro value after yields
      rcases yields_bind.mp yields with ⟨given, between, yields, yields'⟩
      rcases first with ⟨_, _, same, preserves, known⟩
      rcases same.unique yields with ⟨rfl, rfl⟩
      exact second preserves known value after yields'

/-- What a run comes to depends on nothing but what it yields. -/
theorem Comes.congr {run run' : Run Value} {own : List SequenceId} {meant : Option Appearance}
    (comes : run.Comes before own meant)
    (same : ∀ {value after}, run'.Yields before value after ↔ run.Yields before value after) :
    run'.Comes before own meant := by
  cases meant with
  | some appearance =>
      rcases comes with ⟨value, after, yields, known⟩
      exact ⟨value, after, same.mpr yields, known⟩
  | none => exact fun value after yields => comes value after (same.mp yields)

end Run

namespace Handler

variable {before after : Workspace} {own : List SequenceId} {label : String}
  {children : SequenceId} {items : List Value} {seen : List Appearance}

/-- Whether a handler does nothing but to answer, with a value whose look is known from how the
values look that it is called with. The value lies in what the handler has been called with and in
what is new. -/
def Means (handler : Handler) (meaning : List Appearance → Option Appearance) : Prop :=
  ∀ {before : Workspace} {own : List SequenceId} {values : List Value} {seen : List Appearance},
    before.forest.AllAppear own values seen → before.forest.Has own →
      (handler.call values).Comes before own (meaning seen)

/-- Whether a convention hands the span of a tree to the handler. -/
def wantsSpan : Option Convention → Bool
  | some .span => true
  | some .spanInline => true
  | _ => false

/-- How the values look that a handler is called with for a tree, unless it gets the span. -/
def argumentsSeen (convention : Option Convention) (label : String) (span : Span)
    (children : List Appearance) : List Appearance :=
  match convention with
  | none => [.sequence children]
  | some .tree => [.node label span false children]
  | some .labelled => .plain (.text label) :: children
  | some _ => children

theorem arguments_appear {convention : Option Convention} {span : Option SpanId} {look : Span}
    (none : wantsSpan convention = false)
    (held : before.forest.sequences[children.index]? = some items)
    (appear : before.forest.AllAppear own items seen) (outside : children ∉ own)
    (covers : before.forest.seenSpan true { label, children, span } = some look) :
    Run.Adds (liftM (arguments convention label children span)) before fun forest values =>
      forest.AllAppear own values (argumentsSeen convention label look seen) := by
  have same : before.forest.items children = items := by simp [Forest.items, held]
  have done (values : List Value) (seen : List Appearance)
      (gives : (arguments convention label children span).Gives before values before)
      (appear : before.forest.AllAppear own values seen) :
      Run.Adds (liftM (arguments convention label children span)) before fun forest values =>
        forest.AllAppear own values seen :=
    ⟨values, before, Run.yields_work.mpr gives, .refl _ _, appear⟩
  cases convention with
  | none => exact done _ _ rfl (.cons (.sequence outside held appear) .nil)
  | some convention =>
      cases convention with
      | span => cases none
      | spanInline => cases none
      | inline =>
          refine done items seen ?_ appear
          rw [← same]
          rfl
      | labelled =>
          refine done (.text label :: items) _ ?_ (.cons (.plain rfl) appear)
          rw [← same]
          rfl
      | tree =>
          exact ⟨_, _, Run.yields_work.mpr rfl, .addNode ..,
            .cons (appears_addNode held appear outside covers) .nil⟩

/-- What a pure handler comes to when it is called for a tree. -/
theorem Means.apply {handler : Handler} {meaning : List Appearance → Option Appearance}
    (means : handler.Means meaning) {span : Option SpanId} {look : Span}
    (none : wantsSpan handler.convention = false) (has : before.forest.Has own)
    (held : before.forest.sequences[children.index]? = some items)
    (appear : before.forest.AllAppear own items seen) (outside : children ∉ own)
    (covers : before.forest.seenSpan true { label, children, span } = some look) :
    (handler.apply label children span).Comes before own
      (meaning (argumentsSeen handler.convention label look seen)) :=
  .bind (arguments_appear none held appear outside covers) fun preserves appear =>
    means appear (has.keep preserves)

end Handler

/-- The span of a node is what it was thought to be, also where it is made when it is asked for. -/
theorem Forest.openSpan_adds {before : Workspace} {id : NodeId} {node : Node} {span : Span}
    (found : before.forest.nodes[id.index]? = some node)
    (covers : before.forest.seenSpan true node = some span) :
    (Work.plant fun forest => forest.openSpan id : Run SpanId).Adds before fun forest opened =>
      forest.spans[opened.index]? = some span := by
  have here : before.forest.node id = node := by simp [Forest.node, found]
  apply Run.Adds.plant
  · exact preserves_openSpan ..
  · unfold openSpan
    rw [here]
    cases has : node.span with
    | some given => simpa [seenSpan, has] using covers
    | none =>
      rcases (show {} = span by simpa [seenSpan, has] using covers) with rfl
      simp [addSpan, setNode]

namespace Transformer

theorem reporting_yields {name : String} {subject : Value} {call : Run Value}
    {before after : Workspace} {value : Value} :
    (reporting name subject call).Yields before value after ↔ call.Yields before value after :=
  Run.yields_retold

/-- A step of an iteration that succeeds is not different from what it is on its own. -/
theorem iterating_yields {α : Type} {step : Run α} {before after : Workspace} {value : α} :
    (iterating step).Yields before value after ↔ step.Yields before value after :=
  Run.yields_retold

theorem iterating_adds {α : Type} {step : Run α} {before : Workspace}
    {holds : Forest → α → Prop} (adds : step.Adds before holds) :
    (iterating step).Adds before holds := by
  rcases adds with ⟨value, after, yields, known⟩
  exact ⟨value, after, iterating_yields.mpr yields, known⟩

/-- Whether a transformer makes new trees, with pure handlers of some meaning that do not ask for
spans and without fallbacks. -/
structure Pure (transformer : Transformer)
    (meaning : String → List Appearance → Option Appearance) :
    Prop where
  copying : transformer.kind = .copying
  fallback : transformer.fallback = none
  tokenFallback : transformer.tokenFallback = none
  means : ∀ {name handler}, transformer.handlerFor? name = some handler →
    handler.Means (meaning name)
  spanless : ∀ {name handler}, transformer.handlerFor? name = some handler →
    Handler.wantsSpan handler.convention = false

/-- What is made of a token that is or is not handled. -/
def answerTo (meaning : String → List Appearance → Option Appearance) (handled : Bool)
    (token : Token) : Option Appearance :=
  if handled then meaning token.kind [.plain (.token token)] else some (.plain (.token token))

/-- What is made of a tree whose children have been transformed already. -/
def madeOf (transformer : Transformer) (meaning : String → List Appearance → Option Appearance)
    (label : String) (span : Span) (children : List Appearance) : Option Appearance :=
  match transformer.handlerFor? label with
  | none => some (.node label span false children)
  | some handler =>
    meaning label (Handler.argumentsSeen handler.convention label span children)

mutual

/-- What a transformer with pure handlers turns a value into, by how it looks. -/
inductive Turns (transformer : Transformer)
    (meaning : String → List Appearance → Option Appearance) :
    Appearance → Appearance → Prop
  | plain {value : Value} (other : value.asToken? = none) :
      Turns transformer meaning (.plain value) (.plain value)
  | token {token : Token} {result : Appearance}
      (answers : answerTo meaning
        (transformer.visitsTokens && (transformer.handlerFor? token.kind).isSome)
        token = some result) :
      Turns transformer meaning (.plain (.token token)) result
  | sequence (items : List Appearance) :
      Turns transformer meaning (.sequence items) (.sequence items)
  | node {label : String} {span : Span} {variant : Bool} {children results : List Appearance}
      {result : Appearance} (turn : AllTurn transformer meaning children results)
      (made : transformer.madeOf meaning label span results = some result) :
      Turns transformer meaning (.node label span variant children) result

/-- What some values are turned into one by one, without what is discarded. -/
inductive AllTurn (transformer : Transformer)
    (meaning : String → List Appearance → Option Appearance) :
    List Appearance → List Appearance → Prop
  | nil : AllTurn transformer meaning [] []
  | kept {item result : Appearance} {rest results : List Appearance}
      (turns : Turns transformer meaning item result) (present : result ≠ .plain .discard)
      (others : AllTurn transformer meaning rest results) :
      AllTurn transformer meaning (item :: rest) (result :: results)
  | discarded {item : Appearance} {rest results : List Appearance}
      (turns : Turns transformer meaning item (.plain .discard))
      (others : AllTurn transformer meaning rest results) :
      AllTurn transformer meaning (item :: rest) results

end

namespace Pure

variable {transformer : Transformer} {meaning : String → List Appearance → Option Appearance}
  {before : Workspace} {own : List SequenceId} {label : String} {children : SequenceId}
  {items : List Value} {seen : List Appearance}

/-- What a pure transformer makes of a tree: it calls the handler for the label, or makes a new tree
if there is none. -/
theorem comes (pure : transformer.Pure meaning) {span : Option SpanId} {look : Span}
    (has : before.forest.Has own)
    (held : before.forest.sequences[children.index]? = some items)
    (appear : before.forest.AllAppear own items seen) (outside : children ∉ own)
    (covers : before.forest.seenSpan true { label, children, span } = some look) :
    Run.Comes
      (match transformer.handlerFor? label with
        | none => transformer.rebuild label children span
        | some handler => handler.apply label children span)
      before own (transformer.madeOf meaning label look seen) := by
  unfold madeOf
  cases handles : transformer.handlerFor? label with
  | some handler =>
      exact Handler.Means.apply (pure.means handles) (pure.spanless handles) has held appear outside
        covers
  | none =>
      simp only [rebuild, pure.fallback]
      have planted : Run.Adds (Work.plant fun forest => forest.addNode { label, children, span })
          before fun forest id => forest.Appears own (.node id) (.node label look false seen) :=
        .plant (.addNode ..) (appears_addNode held appear outside covers)
      refine Run.Comes.bind planted fun {id between} _ appears => ?_
      exact ⟨.node id, between, Run.yields_pure.mpr ⟨rfl, rfl⟩, .refl _ _, appears⟩

theorem transformNode_comes (pure : transformer.Pure meaning) {id : NodeId} {span : Span}
    {variant : Bool} {old : List Appearance}
    (appears : before.forest.Appears [] (.node id) (.node label span variant old))
    (held : before.forest.sequences[children.index]? = some items)
    (appear : before.forest.AllAppear [] items seen) :
    (transformer.transformNode id children).Comes before []
      (transformer.madeOf meaning label span seen) := by
  have exists_node : ∃ node, before.forest.nodes[id.index]? = some node ∧
      before.forest.NodeLooks node label span variant := by
    cases appears with
    | node found looks => exact ⟨_, found, looks⟩
  rcases exists_node with ⟨node, found, looks⟩
  have here : before.forest.label id = label := by
    rw [← looks.label]
    simp [Forest.label, Forest.node, found]
  refine .bind .look ?_
  rintro _ between - ⟨same, rfl⟩
  rw [← same] at found looks held appear
  rw [here]
  refine .bind (openSpan_adds found looks.span) fun {opened after} preserves covers => ?_
  have covers : after.forest.seenSpan true { label, children, span := some opened } = some span :=
    covers
  have comes := pure.comes (by simp [Has]) (preserves.sequence (by simp) held)
    (appear.stay preserves) (by simp) covers
  refine comes.congr fun {value last} => ?_
  simp only [pure.copying]
  cases transformer.handlerFor? label with
  | none => rfl
  | some handler => exact reporting_yields

theorem transformToken_comes (pure : transformer.Pure meaning) (token : Token) :
    (transformer.transformToken token).Comes before []
      (answerTo meaning (transformer.handlerFor? token.kind).isSome token) := by
  unfold transformToken answerTo
  cases handles : transformer.handlerFor? token.kind with
  | none =>
      simp only [pure.tokenFallback]
      exact ⟨.token token, before, Run.yields_pure.mpr ⟨rfl, rfl⟩, .refl _ _, .plain rfl⟩
  | some handler =>
      have called : (handler.call [.token token]).Comes before []
          (meaning token.kind [.plain (.token token)]) :=
        pure.means handles (.cons (.plain rfl) .nil) (by simp [Has])
      exact called.congr reporting_yields

section Descent

variable {depth : Nat} {descend : NodeId → Run Value}

/-- A value is turned into what it should be if the nodes are that are not higher. -/
theorem transformValue_adds (pure : transformer.Pure meaning)
    (nodes : ∀ {before : Workspace} {id : NodeId} {item result : Appearance},
      before.forest.Appears [] (.node id) item → item.height ≤ depth →
        Turns transformer meaning item result →
          (descend id).Adds before fun forest value => forest.Appears [] value result)
    {value : Value} {item result : Appearance} (appears : before.forest.Appears [] value item)
    (enough : item.height ≤ depth) (turns : Turns transformer meaning item result) :
    (transformer.transformValue descend value).Adds before
      fun forest value => forest.Appears [] value result := by
  have stays (appears : before.forest.Appears [] value result) :
      (Pure.pure value : Run Value).Adds before fun forest value =>
        forest.Appears [] value result :=
    ⟨value, before, Run.yields_pure.mpr ⟨rfl, rfl⟩, .refl _ _, appears⟩
  cases value with
  | node id => exact nodes appears enough turns
  | token token =>
      cases appears with
      | plain =>
          cases turns with
          | plain other => cases other
          | token answers =>
              unfold transformValue
              dsimp only
              cases visits : transformer.visitsTokens with
              | false =>
                  rw [visits] at answers
                  have same : .plain (.token token) = result := by simpa [answerTo] using answers
                  rcases same with rfl
                  exact stays (.plain rfl)
              | true =>
                  rw [visits, Bool.true_and] at answers
                  have comes := @transformToken_comes _ _ before pure token
                  rw [answers] at comes
                  exact comes
  | sequence id =>
      cases appears with
      | plain isPlain => cases isPlain
      | sequence outside held appear =>
          cases turns with
          | sequence => exact stays (.sequence outside held appear)
  | _ =>
      cases appears with
      | plain isPlain =>
          cases turns with
          | plain => exact stays (.plain isPlain)

/-- Values are turned into what they should be, one after the other. -/
theorem transformValues_adds (pure : transformer.Pure meaning)
    (nodes : ∀ {before : Workspace} {id : NodeId} {item result : Appearance},
      before.forest.Appears [] (.node id) item → item.height ≤ depth →
        Turns transformer meaning item result →
          (descend id).Adds before fun forest value => forest.Appears [] value result)
    (values : List Value) : ∀ {before : Workspace} {seen results : List Appearance},
      before.forest.AllAppear [] values seen → Appearance.heightOf seen ≤ depth →
        AllTurn transformer meaning seen results →
          (transformer.transformValues descend values).Adds before
            fun forest values => forest.AllAppear [] values results := by
  induction values with
  | nil =>
      intro before seen results appear _ turn
      cases appear
      cases turn
      exact ⟨[], before, Run.yields_pure.mpr ⟨rfl, rfl⟩, .refl _ _, .nil⟩
  | cons value rest ih =>
      intro before seen results appear enough turn
      cases appear with
      | cons appears others =>
          rcases max_le_iff.mp enough with ⟨first, below⟩
          cases turn with
          | kept turns present turn =>
              refine Run.Adds.bind
                (iterating_adds (pure.transformValue_adds nodes appears first turns)) ?_
              intro given between preserves made
              have listed : (do
                    return given :: (← transformer.transformValues descend rest) :
                      Run (List Value)).Adds between fun forest values =>
                    forest.AllAppear [] values (_ :: _) :=
                Run.Adds.bind (ih (others.stay preserves) below turn) fun stays appear =>
                  ⟨_, _, Run.yields_pure.mpr ⟨rfl, rfl⟩, .refl _ _,
                    .cons (made.stay stays) appear⟩
              split
              next => cases made; exact absurd rfl present
              next => exact listed
          | discarded turns turn =>
              refine Run.Adds.bind
                (iterating_adds (pure.transformValue_adds nodes appears first turns)) ?_
              intro given between preserves made
              cases made
              exact ih (others.stay preserves) below turn

end Descent

/-- A tree is turned into what it should be by recursion that goes down far enough. -/
theorem transformTo_adds (pure : transformer.Pure meaning) (depth : Nat) :
    ∀ {before : Workspace} {id : NodeId} {item result : Appearance},
      before.forest.Appears [] (.node id) item → item.height ≤ depth →
        Turns transformer meaning item result →
          (transformer.transformTo depth id).Adds before
            fun forest value => forest.Appears [] value result := by
  induction depth with
  | zero =>
      intro before id item result appears enough _
      cases appears with
      | plain isPlain => cases isPlain
      | node => exact absurd enough (by simp [Appearance.height])
  | succ depth ih =>
      intro before id item result appears enough turns
      cases appears with
      | plain isPlain => cases isPlain
      | @node _ node items label span variant seen found looks outside held appear =>
          cases turns with
          | node turn made =>
              have here : before.forest.children id = items := by
                simp [Forest.children, Forest.node, Forest.items, found, held]
              rw [transformTo]
              refine Run.Adds.bind .look ?_
              rintro _ between - ⟨same, rfl⟩
              rw [← same] at found looks held appear
              rw [here]
              have whole := Appears.node found looks outside held appear
              refine Run.Adds.bind (pure.transformValues_adds ih items appear
                (Nat.le_of_succ_le_succ enough) turn) fun {values between} preserves appear => ?_
              simp only [pure.copying, reduceCtorEq, if_false]
              have planted : Run.Adds (Work.plant fun forest => forest.addSequence values) between
                  fun forest children => forest.sequences[children.index]? = some values :=
                .plant (.addSequence ..) (held_addSequence ..)
              refine Run.Adds.bind planted fun {children after} planted held => ?_
              have comes := pure.transformNode_comes (whole.stay (preserves.trans planted)) held
                (appear.stay planted)
              rw [made] at comes
              exact comes

/-- What a pure transformer makes of a value. -/
theorem transform_adds (pure : transformer.Pure meaning) {value : Value} {item result : Appearance}
    (appears : before.forest.Appears [] value item) (turns : Turns transformer meaning item result)
    (present : result ≠ .plain .discard) :
    (transformer.transform value).Adds before
      fun forest value => forest.Appears [] value result := by
  unfold transform
  refine Run.Adds.bind .look ?_
  rintro _ between - ⟨same, rfl⟩
  rw [← same] at appears ⊢
  simp only [pure.copying]
  refine Run.Adds.bind (iterating_adds (pure.transformValue_adds (pure.transformTo_adds _) appears
    (Nat.le_of_lt appears.height_lt) turns)) fun {given between} _ made => ?_
  have same : orNothing given = given := by
    unfold orNothing
    split
    next => cases made; exact absurd rfl present
    next => rfl
  exact ⟨_, _, Run.yields_pure.mpr ⟨rfl, rfl⟩, .refl _ _, same.symm ▸ made⟩

end Pure

end Transformer

end Lalr
