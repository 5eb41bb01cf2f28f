import Lalr.Proofs.Parser.Inlining
import Lalr.Proofs.Shaping.Locating

/-!
# Positions of parsed trees

A parse that keeps positions makes of its input what follows from the derivation alone, as
long as each tree that a rule hands on has a position where that matters. The positions in
what it makes are then nested. Where a rule hands on a tree without a position, behind a
token that is left out, the tree gets a beginning without an end.
-/

namespace Lalr

open Forest

/-- Whether the values on a stack are what is made of some derivations, each in cells of its own.
Those that are steady look as they should. -/
def Growth.Situates (growth : Growth) (rules : List Rule) (forest : Forest) (values : List Value)
    (parts : List Derivation) : Prop :=
  ∃ bodies : List Body, values = bodies.map Body.value ∧
    List.Forall₂ (fun body part =>
      part.Steady growth rules → body.looks = part.located growth rules) bodies parts ∧
    (∀ body ∈ bodies, forest.Bears body) ∧ (Body.cellsOf bodies).Nodup

namespace Growth.Situates

variable {growth : Growth} {rules : List Rule} {before after : Forest} {values : List Value}
  {value : Value} {parts rest : List Derivation} {part : Derivation} {bodies : List Body}

theorem nil (growth : Growth) (rules : List Rule) (forest : Forest) :
    growth.Situates rules forest [] [] :=
  ⟨[], rfl, .nil, nofun, List.nodup_nil⟩

theorem extend (situates : growth.Situates rules before values parts)
    (extends_ : before.Extends after) : growth.Situates rules after values parts := by
  rcases situates with ⟨bodies, same, looks, bears, nodup⟩
  exact ⟨bodies, same, looks, fun body member =>
    (bears body member).keep extends_ (List.disjoint_nil_right _), nodup⟩

theorem shift (situates : growth.Situates rules before values parts) (token : Token) :
    growth.Situates rules before (.token token :: values) (.leaf token :: parts) := by
  rcases situates with ⟨bodies, rfl, looks, bears, nodup⟩
  exact ⟨.plain (.token token) :: bodies, rfl, .cons (fun _ => rfl) looks,
    List.forall_mem_cons.mpr ⟨.plain rfl, bears⟩, nodup⟩

/-- The values of a rule's symbols, and those that lie below. -/
theorem taken (situates : growth.Situates rules before values (parts.reverse ++ rest)) :
    ∃ top below : List Body, (values.take parts.length).reverse = top.map Body.value ∧
      values.drop parts.length = below.map Body.value ∧
      List.Forall₂ (fun body part =>
        part.Steady growth rules → body.looks = part.located growth rules) top parts ∧
      List.Forall₂ (fun body part =>
        part.Steady growth rules → body.looks = part.located growth rules) below rest ∧
      (∀ body ∈ top, before.Bears body) ∧ (∀ body ∈ below, before.Bears body) ∧
      (Body.cellsOf top ++ Body.cellsOf below).Nodup := by
  rcases situates with ⟨bodies, rfl, looks, bears, nodup⟩
  have length : parts.reverse.length = parts.length := List.length_reverse
  refine ⟨(bodies.take parts.length).reverse, bodies.drop parts.length, ?_, ?_,
    ?_, ?_, ?_, ?_, ?_⟩
  · simp [List.map_take]
  · simp [List.map_drop]
  · have front := List.forall₂_take parts.length looks
    rw [List.take_left' length] at front
    simpa using List.rel_reverse front
  · have back := List.forall₂_drop parts.length looks
    rwa [List.drop_left' length] at back
  · exact fun body member => bears body (List.mem_of_mem_take (List.mem_reverse.mp member))
  · exact fun body member => bears body (List.mem_of_mem_drop member)
  · rw [← Body.cellsOf_append]
    refine (List.Perm.nodup_iff ?_).mpr nodup
    simp only [Body.cellsOf_eq_flatMap]
    refine List.Perm.flatMap_right _ ?_
    exact (List.reverse_perm _ |>.append_right _).trans (List.take_append_drop .. ▸ .refl _)

/-- The values of steady derivations look as they should. -/
theorem looks_eq (looks : List.Forall₂ (fun body part =>
      part.Steady growth rules → body.looks = part.located growth rules) bodies parts)
    (steady : ∀ part ∈ parts, part.Steady growth rules) :
    bodies.map Body.looks = Derivation.locatedOf growth rules parts := by
  rw [Derivation.locatedOf_eq_map]
  induction looks with
  | nil => rfl
  | cons first _ ih =>
      rcases List.forall_mem_cons.mp steady with ⟨here, others⟩
      rw [List.map_cons, List.map_cons, first here, ih others]

/-- What becomes of the values of a rule's symbols takes their place. -/
theorem replace {top below : List Body}
    (belowBears : ∀ body ∈ below, before.Bears body)
    (nodup : (Body.cellsOf top ++ Body.cellsOf below).Nodup)
    (looks : List.Forall₂ (fun body part =>
      part.Steady growth rules → body.looks = part.located growth rules) below rest)
    (becomes : Growth.Becomes before after (Body.cellsOf top) value (part.Steady growth rules)
      (part.located growth rules)) :
    growth.Situates rules after (value :: below.map Body.value) (part :: rest) := by
  rcases becomes with ⟨⟨body, rfl, seen, bears, own, within⟩, touches⟩
  rcases List.nodup_append'.mp nodup with ⟨-, nodup, apart⟩
  refine ⟨body :: below, rfl, .cons seen looks,
    List.forall_mem_cons.mpr ⟨bears, fun other member => ?_⟩, ?_⟩
  · exact (belowBears other member).keep touches fun cell inside changed =>
      apart changed (Body.cells_subset member inside)
  · refine List.nodup_append'.mpr ⟨own, nodup, fun cell inside under => ?_⟩
    exact (within cell inside).elim (fun above => apart above under) fun absent =>
      absent (hasCell_of_bears belowBears cell under)

section Steps

variable {reductions : Reductions} {kinds : List String} {start finish : Workspace}

/-- Where there are no rules, the values of a rule's symbols are put together. -/
theorem gather_bears (bears : ∀ body ∈ bodies, before.Bears body)
    (nodup : (Body.cellsOf bodies).Nodup) :
    Growth.Becomes before (before.addSequence (bodies.map Body.value)).2 (Body.cellsOf bodies)
      (.sequence (before.addSequence (bodies.map Body.value)).1) True
      (.sequence (bodies.map Body.looks)) := by
  have added := Touches.addSequence before (bodies.map Body.value)
  have absent : ¬before.HasCell (.sequence ⟨before.sequences.size⟩) := Nat.lt_irrefl _
  refine ⟨⟨.sequence (before.addSequence (bodies.map Body.value)).1 bodies, rfl, fun _ => ?_,
    .sequence (held_addSequence ..) fun body member =>
      (bears body member).keep added (List.disjoint_nil_right _),
    List.nodup_cons.mpr ⟨fun member => absent (hasCell_of_bears bears _ member), nodup⟩,
    List.forall_mem_cons.mpr ⟨.inr absent, fun cell => .inl⟩⟩,
    added.mono (List.nil_subset _)⟩
  rw [Body.looks, Body.looksOf_eq_map]

/-- What a reduction makes of the values of a rule's symbols takes their place. -/
theorem reduce (situates : growth.Situates rules start.forest values (parts.reverse ++ rest))
    (plain : growth.transformer = none) (all : growth.propagation = .all)
    (make : Reductions.make growth rules kinds = .ok reductions) {rule : Rule}
    (length : rule.expansion.length = parts.length)
    (yields : (reductions.reduce rule (values.take rule.expansion.length).reverse).Yields start
      value finish) :
    growth.Situates rules finish.forest (value :: values.drop rule.expansion.length)
      (.node rule parts :: rest) := by
  rcases Reductions.make_eq_ok make with ⟨entries, tokens⟩
  rcases situates.taken with
    ⟨top, below, taken, left, looks, looksBelow, topBears, belowBears, nodup⟩
  rcases List.nodup_append'.mp nodup with ⟨topNodup, -⟩
  rw [length, taken] at yields
  rw [length, left]
  refine replace belowBears nodup looksBelow ?_
  unfold Reductions.reduce at yields
  cases found : reductions.find? rule with
  | some reduction =>
      rw [found] at yields
      rcases Reductions.find?_eq_some entries found with
        ⟨own, listed, shape, build, shaped, built, rfl⟩
      refine (Growth.reduce_bears plain all built shaped topBears topNodup yields).imp
        fun steady => ?_
      cases steady with
      | node here below =>
          have same := looks_eq looks below
          rw [same]
          refine ⟨here own shape listed shaped, ?_⟩
          simp only [Derivation.located, listed, Rule.located, shaped]
  | none =>
      rw [found] at yields
      dsimp only at yields
      split at yields
      next isEmpty =>
        simp only [Reductions.isEmpty, Bool.and_eq_true, List.isEmpty_iff] at isEmpty
        rw [isEmpty.1] at entries
        rcases List.forall₂_nil_right_iff.mp entries with rfl
        simp only [Run.yields_bind, Run.yields_plant, Run.yields_pure] at yields
        rcases yields with ⟨_, _, ⟨rfl, rfl⟩, rfl, rfl⟩
        refine (gather_bears topBears topNodup).imp fun steady => ⟨trivial, ?_⟩
        cases steady with
        | node here below =>
            rw [looks_eq looks below]
            rfl
      next => exact absurd yields Run.yields_throw

end Steps

end Growth.Situates

namespace Parser

variable {terminals : List Terminal} {rules : List Rule} {table : Table State}
  {ignored : List Data} {options : Options} {parser : Parser} {growth : Growth}

/-- The values on the stack of a parse that keeps positions are what is made of their
derivations. -/
theorem tracking_situated {kinds : List String} (plain : growth.transformer = none)
    (all : growth.propagation = .all)
    (make : Reductions.make growth rules kinds = .ok parser.reductions)
    (extends_ : parser.source.Confined Forest.Extends) {starting : State}
    (coherent : parser.table.Coherent starting) :
    parser.Tracking starting fun workspace values parts =>
      growth.Situates rules workspace.forest values parts where
  tracks := {
    trace := id
    shift := by
      intro token before after values value parts situates shifted
      have tokenless : parser.reductions.tokens = [] := by
        simp [(Reductions.make_eq_ok make).2, Reductions.handlersFor, plain]
      have yields : (parser.reductions.shift token).Yields before value after := shifted
      rw [Reductions.shift, tokenless] at yields
      rcases Run.yields_pure.mp yields with ⟨rfl, rfl⟩
      exact situates.shift token
    reduce := by
      intro token rule before after values value parts rest _ names situates reduced
      have length : rule.expansion.length = parts.length := by
        simpa using congrArg List.length names.symm
      exact situates.reduce plain all make length reduced }
  coherent
  pulls := fun situates gives => situates.extend (pull_confined extends_ gives)

/-- Whether a parse of a text derives something of some tokens: these are fed from where the text
starts, and it is on top of the stack in the end. -/
def Derives (parser : Parser) (text : String) (symbol : Option String) (before : Workspace)
    (tokens : List Token) (part : Derivation) : Prop :=
  ∃ session value final after stack, parser.start (some text) symbol = .ok session ∧
    parser.Comes {} none session before tokens value final after ∧
    parser.table.feedAll Derivation.effects parser.table.reductionBound session.ending
      (Token.endOfInput tokens.getLast?) tokens ⟨session.stack.states, []⟩ =
        (.finished part, stack)

/-- The positions in a parsed tree are nested: the place of each tree that has one starts before it
ends, lies in the container of the tree, and covers all its tokens, and the places of its children
lie in it in their order and without overlap. This holds for every table that is coherent, all rules
and options without a transformer, and callbacks that only add to the forest, where the tokens
follow each other, as long as no tree without a place is handed on that has values with places
before it and none behind it. -/
theorem parse_nested {made made' before after : Workspace} {text : String} {symbol : Option String}
    {value : Value} (make : (make terminals rules table ignored options).Yields made parser made')
    (plain : options.transformer = .ok none) (all : options.propagation = .all)
    (callbacks : ∀ callbacks, options.callbacks = .ok callbacks → ∀ kind callback,
      assoc? callbacks kind = some callback → callback.Confined Forest.Extends)
    (coherent : ∀ name starting, assoc? table.starts name = some starting →
      table.Coherent starting)
    (parsed : (parser.parse text symbol).Yields before value after)
    (increasing : ∀ tokens, parser.Consumes text symbol before tokens →
      ∃ low high, Place.Row low high (tokens.map Token.place))
    (steady : ∀ tokens part, parser.Derives text symbol before tokens part →
      part.Steady (Parser.growth options none) rules) :
    ∃ appearance : Appearance, after.forest.Appears [] value appearance ∧
      appearance.Nested := by
  rcases reductions_of_make make plain with ⟨tables, -, reductions⟩
  have extends_ : parser.source.Confined Forest.Extends := confined_of_make make callbacks
  rcases comes_of_parse parsed with ⟨session, tokens, final, started, comes⟩
  rcases stack_of_start started with ⟨name, starting, listed, stack⟩
  have tracking := tracking_situated rfl all reductions extends_
    (tables ▸ coherent name starting (tables ▸ listed))
  have tracked : Tracked parser.table starting (fun workspace values parts =>
      (Parser.growth options none).Situates rules workspace.forest values parts) before
      session.stack [] := by
    rw [stack]
    exact ⟨.start, by simp, .nil ..⟩
  rcases comes.tracked tracking tracked with ⟨part, more, tracked, top, -, built, leaves⟩
  rcases tracked.known with ⟨bodies, values, looks, bears, -⟩
  cases looks with
  | @cons body _ bodies _ seen _ =>
      rw [values] at top
      rcases Option.some.inj top with rfl
      have steady := steady tokens part ⟨_, _, _, _, _, started, comes, by simpa using built⟩
      rcases increasing tokens ⟨_, _, _, _, started, comes⟩ with ⟨low, high, row⟩
      refine ⟨body.looks, (bears body (List.mem_cons_self ..)).appears, ?_⟩
      rw [seen steady]
      have split : tokens = Derivation.leavesOf more.reverse ++ part.leaves := by
        simpa [Derivation.leavesOf] using leaves.symm
      rw [split, List.map_append] at row
      rcases row.split with ⟨_, -, row⟩
      exact (part.nested_located row).1

/-- Where the positions in a tree are nested, it ends if it has a position. -/
theorem covers_of_nested {forest : Forest} {own : List SequenceId} {id : NodeId}
    {appearance : Appearance} (appears : forest.Appears own (.node id) appearance)
    (nested : appearance.Nested) (placed : (forest.spanOf id).isEmpty = false) :
    ∃ start stop, (forest.spanOf id).own.Covers start stop := by
  cases appears with
  | plain isPlain => cases isPlain
  | node found looks _ _ _ =>
      rw [spanOf_of_seenSpan found looks.span] at placed ⊢
      cases nested with
      | bare => cases placed
      | placed lies => exact ⟨_, _, lies.own⟩

/-! ## A tree behind a token that is left out -/

/-- The first tokens that a parse takes from its text. -/
def taken (parser : Parser) : Nat → TokenStream → Session → Work (List Token)
  | 0, _, _ => return []
  | count + 1, stream, session => do
    let (found, stream, met) ← parser.pull stream session
    match found with
    | .ok (some token) =>
      let (_, next) ← parser.feedAs false met token
      let rest ← parser.taken count stream next
      return token :: rest
    | _ => return []

/-- The tokens that a parse takes are those that it comes to its value with. -/
theorem Comes.taken {stream : TokenStream} {last : Option Token} {session final : Session}
    {before after : Workspace} {tokens : List Token} {value : Value}
    (comes : parser.Comes stream last session before tokens value final after) (count : Nat) :
    ∃ later, (parser.taken count stream session).Gives before (tokens.take count) later := by
  induction count generalizing stream last session before tokens with
  | zero => exact ⟨_, Work.gives_pure.mpr ⟨List.take_zero.symm, rfl⟩⟩
  | succ count ih =>
      cases comes with
      | ended pulled _ =>
          exact ⟨_, Work.gives_bind.mpr ⟨_, _, pulled, Work.gives_pure.mpr ⟨rfl, rfl⟩⟩⟩
      | fed pulled fed rest =>
          rcases ih rest with ⟨later, gives⟩
          exact ⟨later, Work.gives_bind.mpr ⟨_, _, pulled, Work.gives_bind.mpr ⟨_, _, fed,
            Work.gives_bind.mpr ⟨_, _, gives, Work.gives_pure.mpr ⟨rfl, rfl⟩⟩⟩⟩⟩

/-- A text is a wrap. This is the thing behind a B, and a thing is an A or nothing. -/
def wrapRules : List Rule :=
  [{ origin := "start", expansion := [.nonterminal "wrap"] },
    { origin := "wrap", expansion := [.terminal "B" true, .nonterminal "thing"],
      options := { expandSingle := true } },
    { origin := "thing", expansion := [.terminal "A" false] },
    { origin := "thing", expansion := [] }]

/-- The table of these rules. -/
def wrapTable : Table State where
  rows := [
    (.number 0, [("B", .shift (.number 1)), ("wrap", .shift (.number 4)),
      ("start", .shift (.number 5))]),
    (.number 1, [("A", .shift (.number 2)), ("thing", .shift (.number 3)),
      ("$END", .reduce wrapRules[3])]),
    (.number 2, [("$END", .reduce wrapRules[2])]),
    (.number 3, [("$END", .reduce wrapRules[1])]),
    (.number 4, [("$END", .reduce wrapRules[0])]),
    (.number 5, [])]
  starts := [("start", .number 0)]
  ends := [("start", .number 5)]

/-- The parser of these rules. It keeps positions. -/
def wrapParser : Parser where
  options := { contextual := false, propagation := .all }
  terminals := letters
  rules := wrapRules
  ignored := []
  table := wrapTable
  reductions := (Reductions.make { propagation := .all } wrapRules ["A", "B"]).toOption.getD
    { rules := [] }
  source := { reader := .basic (itemLexer 0) }
  whole := itemLexer 1
  wholeKeeping := itemLexer 2

theorem wrapParser_made : ∃ after, (make letters wrapRules wrapTable []
    wrapParser.options).Yields {} wrapParser after :=
  make_letters (by rfl) (show Reductions.make { propagation := .all } wrapRules ["A", "B"] =
    .ok wrapParser.reductions by rfl)

theorem wrapTable_coherent (name : String) (starting : State)
    (listed : assoc? wrapTable.starts name = some starting) : wrapTable.Coherent starting := by
  have same : name = "start" ∧ starting = .number 0 := by
    simpa [wrapTable] using mem_of_assoc? listed
  rcases same with ⟨rfl, rfl⟩
  have proper : wrapTable.Proper "start" (.number 0) (.number 5) :=
    Table.proper_of_isProper (by decide)
  exact proper.toCoherent

/-- What a parse of these rules starts with. -/
def wrapStart (text : String) : Session where
  stack := { states := [.number 0], values := [] }
  starting := .number 0
  ending := .number 5
  cursor := some (Cursor.ofText text)

/-- A token of one character in the first line of a text. -/
def letterAt (kind text : String) (offset : Nat) : Token where
  kind
  text
  place := {
    startPos := some offset, line := some 1, column := some (offset + 1)
    endLine := some 1, endColumn := some (offset + 2), endPos := some (offset + 1) }

theorem letterAt_covers (kind text : String) (offset : Nat) :
    (letterAt kind text offset).place.Covers offset (offset + 1) :=
  ⟨rfl, rfl, rfl, rfl, Nat.le_succ offset⟩

theorem wrapParser_start (text : String) :
    wrapParser.start (some text) none = .ok (wrapStart text) := by rfl

/-- The tokens of a parse are those that it takes at first, if there are no more of them. -/
theorem eq_of_taken {text : String} {symbol : Option String} {session : Session}
    {before : Workspace} {tokens listed : List Token}
    (started : parser.start (some text) symbol = .ok session)
    (takes : ((parser.taken (listed.length + 1) {} session).run before).1 = listed)
    (consumes : parser.Consumes text symbol before tokens) : tokens = listed := by
  rcases consumes with ⟨session', value, final, after, started', comes⟩
  rcases Except.ok.inj (started.symm.trans started') with rfl
  rcases comes.taken (listed.length + 1) with ⟨later, gives⟩
  have same : tokens.take (listed.length + 1) = listed := (congrArg Prod.fst gives).symm.trans takes
  have length := congrArg List.length same
  rw [List.length_take] at length
  rw [← same, List.take_of_length_le (by omega)]

theorem tokens_ba {tokens : List Token} (consumes : wrapParser.Consumes "ba" none {} tokens) :
    tokens = [letterAt "B" "b" 0, letterAt "A" "a" 1] :=
  eq_of_taken (wrapParser_start "ba") (by rfl) consumes

theorem tokens_b {tokens : List Token} (consumes : wrapParser.Consumes "b" none {} tokens) :
    tokens = [letterAt "B" "b" 0] :=
  eq_of_taken (wrapParser_start "b") (by rfl) consumes

/-- The derivation of a B and an A. -/
def wrapDerivation : Derivation :=
  .node wrapRules[0] [.node wrapRules[1]
    [.leaf (letterAt "B" "b" 0), .node wrapRules[2] [.leaf (letterAt "A" "a" 1)]]]

theorem feedAll_ba : (wrapParser.table.feedAll Derivation.effects wrapParser.table.reductionBound
    (wrapStart "ba").ending (Token.endOfInput [letterAt "B" "b" 0, letterAt "A" "a" 1].getLast?)
    [letterAt "B" "b" 0, letterAt "A" "a" 1] ⟨(wrapStart "ba").stack.states, []⟩).1 =
      .finished wrapDerivation := by rfl

theorem wrapDerivation_steady :
    wrapDerivation.Steady (Parser.growth wrapParser.options none) wrapRules := by
  have placed {parts : List Derivation}
      (placed : (Derivation.locatedOf (Parser.growth wrapParser.options none) wrapRules parts).all
        fun item => item.place?.isSome) (shape : Shape) :
      shape.Steady (Derivation.locatedOf (Parser.growth wrapParser.options none) wrapRules parts) :=
    Shape.steady_of_placed fun item member => List.all_eq_true.mp placed item member
  refine .node (fun _ shape _ _ => placed (by rfl) shape) (List.forall_mem_singleton.mpr ?_)
  refine .node (fun _ shape _ _ => placed (by rfl) shape)
    (List.forall_mem_cons.mpr ⟨.leaf _, List.forall_mem_singleton.mpr ?_⟩)
  exact .node (fun _ shape _ _ => placed (by rfl) shape) (List.forall_mem_singleton.mpr (.leaf _))

theorem Run.exists_yields {α : Type} {run : Run α} {before : Workspace} {value : α}
    (ran : (run.run.run before).1.toOption = some value) :
    ∃ after, run.Yields before value after := by
  cases answer : (run.run.run before).1 with
  | ok answered =>
      rw [answer] at ran
      rcases (show answered = value from Option.some.inj ran) with rfl
      exact ⟨_, Prod.ext answer rfl⟩
  | error failure =>
      rw [answer] at ran
      cases ran

/-- Parses a text and says whether the tree has a beginning without an end. -/
def endless (parser : Parser) (text : String) : Run Bool := do
  let value ← parser.parse text none
  Work.look fun forest =>
    match value with
    | .node id =>
      let span := forest.spanOf id
      !span.isEmpty && span.own.startPos == some 0 && span.own.endPos == none
    | _ => false

theorem endless_ba : ((endless wrapParser "ba").run.run {}).1.toOption = some false := by
  decide +kernel

theorem endless_b : ((endless wrapParser "b").run.run {}).1.toOption = some true := by
  decide +kernel

/-- A thing that is handed on has its B in its container, and is nested. -/
theorem parse_nested_thing :
    ∃ value after, (wrapParser.parse "ba" none).Yields {} value after ∧
      ∃ appearance : Appearance, after.forest.Appears [] value appearance ∧
        appearance.Nested := by
  rcases Run.exists_yields endless_ba with ⟨_, yields⟩
  rcases Run.yields_bind.mp yields with ⟨value, after, parsed, -⟩
  rcases wrapParser_made with ⟨made, make⟩
  refine ⟨value, after, parsed, parse_nested make rfl rfl ?_ wrapTable_coherent parsed ?_ ?_⟩
  · rintro _ ⟨⟩ kind callback found
    cases found
  · intro tokens consumes
    rcases tokens_ba consumes with rfl
    exact ⟨0, 2, .cons (letterAt_covers ..) (Nat.le_refl _)
      (.cons (letterAt_covers ..) (Nat.le_refl _) (.nil (Nat.le_refl _)))⟩
  · rintro tokens part ⟨session, value, final, after, stack, started, comes, built⟩
    rcases tokens_ba ⟨_, _, _, _, started, comes⟩ with rfl
    rcases Except.ok.inj ((wrapParser_start "ba").symm.trans started) with rfl
    have same := feedAll_ba
    rw [built] at same
    rcases Outcome.finished.inj same with rfl
    exact wrapDerivation_steady

/-- A thing that is empty gets a beginning from the B before it, and no end: the place that the
thing has got with its beginning is taken for that of the last value. -/
theorem parse_endless :
    ∃ made id after, (make letters wrapRules wrapTable [] wrapParser.options).Yields {} wrapParser
        made ∧
      wrapTable.Coherent (.number 0) ∧
      (∀ tokens, wrapParser.Consumes "b" none {} tokens →
        Place.Row 0 1 (tokens.map Token.place)) ∧
      (wrapParser.parse "b" none).Yields {} (.node id) after ∧
      (after.forest.spanOf id).isEmpty = false ∧
      (after.forest.spanOf id).own.startPos = some 0 ∧
      (after.forest.spanOf id).own.endPos = none ∧
      ¬∃ appearance : Appearance, after.forest.Appears [] (.node id) appearance ∧
        appearance.Nested := by
  rcases Run.exists_yields endless_b with ⟨_, yields⟩
  simp only [endless, Run.yields_bind, Run.yields_look] at yields
  rcases yields with ⟨value, after, parsed, here, -⟩
  rcases wrapParser_made with ⟨made, make⟩
  split at here
  next id =>
    simp only [Bool.and_eq_true, Bool.not_eq_true', beq_iff_eq] at here
    rcases here with ⟨⟨covers, starts⟩, ends⟩
    refine ⟨made, id, after, make, wrapTable_coherent "start" _ rfl, fun tokens consumes => ?_,
      parsed, covers, starts, ends, ?_⟩
    · rcases tokens_b consumes with rfl
      exact .cons (letterAt_covers ..) (Nat.le_refl _) (.nil (Nat.le_refl _))
    · rintro ⟨appearance, appears, nested⟩
      rcases covers_of_nested appears nested covers with ⟨start, stop, whole⟩
      rw [whole.endPos] at ends
      cases ends
  next => cases here

end Parser

end Lalr
