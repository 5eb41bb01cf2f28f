import Lalr.Proofs.Parser.Damage
import Lalr.Proofs.Parser.Draining
import Lalr.Proofs.Parser.Expecting

/-!
# Parses that answer

What a grammar promises when it is compiled is not checked when it is loaded. As long as the
promises are kept, a parse without handlers answers every text: with a tree, or with a failure that
blames the text. Two things are not promised. A lexer may turn out to be impossible to prepare, and
where a rule that leads to the end of a parse is replaced by its only child, the answer may be
whatever that child is.
-/

namespace Lalr

namespace Reader

variable {reader : Reader} {standing : Option Standing} {cursor met : Cursor}
  {before after : Workspace} {failure : Failure}

/-- Whether a reader has a lexer to ask where a parse stands. -/
def Knows (reader : Reader) (standing : Option Standing) : Prop :=
  ∀ lexer, reader = .contextual lexer →
    ∃ place own, standing = some place ∧ assoc? lexer.lexers place.state = some own

/-- A reader fails because of the text, or because one of its lexers cannot be prepared. -/
theorem next_fails (steady : ∀ lexer ∈ reader.lexers, lexer.Steady)
    (knows : reader.Knows standing)
    (gives : (reader.next standing cursor).Gives before (.error failure, met) after) :
    failure.isStuck = true ∨ ∃ lexer ∈ reader.lexers,
      lexer.vocabulary.get.1 = .error failure := by
  have alone {lexer : Lexer} (member : lexer ∈ reader.lexers) {cursor met : Cursor}
      {before after : Workspace} {failure : Failure}
      (gives : (lexer.next standing cursor).Gives before (.error failure, met) after) :
      (∃ stuck, failure = .stuckText stuck) ∨
        ∃ lexer ∈ reader.lexers, lexer.vocabulary.get.1 = .error failure :=
    (Lexer.next_fails (steady lexer member).consuming (steady lexer member).silent gives).imp_right
      fun unprepared => ⟨lexer, member, unprepared⟩
  cases reader with
  | basic lexer =>
      refine (alone (List.mem_singleton_self lexer) gives).imp_left ?_
      rintro ⟨stuck, rfl⟩
      rfl
  | contextual lexer =>
      rcases knows lexer rfl with ⟨place, own, rfl, known⟩
      unfold Reader.next ContextualLexer.next at gives
      dsimp only at gives
      rw [known] at gives
      have member : own ∈ (Reader.contextual lexer).lexers :=
        List.mem_cons_of_mem _ (List.mem_map.mpr ⟨_, mem_of_assoc? known, rfl⟩)
      rcases Work.gives_bind.mp gives with ⟨⟨answer, next⟩, between, asked, gives⟩
      split at gives
      next stuck next' same =>
        cases same
        rcases Work.gives_bind.mp gives with ⟨⟨answer, last⟩, between', asked', gives⟩
        cases (Work.gives_pure.mp gives).1
        -- What the root lexer answers is blamed, or is no answer at all.
        rcases answer with failure | _ | token
        · rcases alone (List.mem_cons_self ..) asked' with ⟨stuck', rfl⟩ | unprepared
          · exact .inl rfl
          · cases failure with
            | stuckText => exact .inl rfl
            | _ => exact .inr unprepared
        · exact .inl rfl
        · exact .inl rfl
      next =>
        cases (Work.gives_pure.mp gives).1
        refine (alone member asked).imp_left ?_
        rintro ⟨stuck, rfl⟩
        rfl

end Reader

namespace Parser

variable {parser : Parser} {growth : Growth} {session next final : Session} {token : Token}
  {stack stack' : Stack State Value} {before after : Workspace} {starting : State}
  {failure : Failure}

/-! ## What a grammar promises -/

/-- Whether a rule takes over the children of the trees that have some name. -/
def Splices (parser : Parser) (name : String) : Prop :=
  ∃ rule ∈ parser.rules, ∃ symbol ∈ rule.expansion, symbol.name = name ∧
    Shape.isSpliced symbol = true

/-- What a grammar promises when it is compiled, and what is not checked when it is loaded: the
table is closed and reduces by rules of the grammar only, what is spliced is made by rules that
always make a tree, the reductions on a token come to an end, and what matches takes up some
text. -/
structure Dependable (parser : Parser) : Prop where
  closed : ∀ {text symbol : Option String} {session : Session},
    parser.start text symbol = .ok session → parser.table.Closed session.starting
  listed : ∀ {rule : Rule}, parser.table.HasRule rule →
    ∃ own ∈ parser.rules, own.same rule = true
  inlined : ∀ {rule : Rule}, rule ∈ parser.rules →
    parser.Splices rule.origin → ¬rule.Unwraps
  apart : ∀ {standing : Option Standing} {cursor met : Cursor} {token : Token}
    {before after : Workspace},
    (parser.source.reader.next standing cursor).Gives before (.ok (some token), met) after →
      ¬parser.Splices token.kind
  finite : ∀ {shifted : Nat} {session : Session}, parser.Arrives shifted session → ∀ kind,
    ¬parser.table.Diverges kind (endingFor session kind) session.stack.states
  consuming : ∀ lexer ∈ parser.whole :: parser.source.reader.lexers, lexer.Consuming

/-- Whether a parse may end in a state with what is not a tree, since a rule that leads there may be
replaced by its only child. -/
def MayUnwrap (parser : Parser) (ending : State) : Prop :=
  ∃ rule ∈ parser.rules, rule.Unwraps ∧ ∃ source,
    parser.table.Moves source rule.origin ending

/-! ## Stacks -/

/-- Whether the states of a stack are a path of the table, and those values are trees that are going
to be spliced. -/
def Carries (parser : Parser) (starting : State) (stack : Stack State Value) : Prop :=
  ∃ symbols, parser.table.Path starting stack.states symbols ∧
    List.Forall₂ (fun value name => parser.Splices name → value.isNode = true)
      stack.values symbols

namespace Carries

/-- A token that is not called as anything that is spliced may come on top. -/
theorem shift (carries : parser.Carries starting stack) {kind : String} {target : State}
    (move : parser.table.move stack.states kind = .shift target) (apart : ¬parser.Splices kind)
    (value : Value) :
    parser.Carries starting
      { states := target :: stack.states, values := value :: stack.values } := by
  rcases carries with ⟨symbols, path, trees⟩
  rcases Table.move_eq_shift move with ⟨top, found, moves⟩
  exact ⟨kind :: symbols, path.extend found moves,
    .cons (fun splices => absurd splices apart) trees⟩

/-- A reduction succeeds, and what it puts on top is a tree if it is going to be spliced. -/
theorem reduce (dependable : parser.Dependable)
    (builds : parser.reductions.Builds growth parser.rules)
    (coherent : parser.table.Coherent starting)
    (carries : parser.Carries starting stack) {kind : String} {rule : Rule}
    (move : parser.table.move stack.states kind = .reduce rule) (before : Workspace) :
    ∃ value after target,
      (parser.reductions.reduce rule (stack.values.take rule.expansion.length).reverse).Yields
        before value
        after ∧
      parser.table.target (stack.states.drop rule.expansion.length) rule.origin = .ok target ∧
      parser.Carries starting
        { states := target :: stack.states.drop rule.expansion.length
          values := value :: stack.values.drop rule.expansion.length } ∧
      (value.isNode = true ∨ parser.MayUnwrap target) := by
  rcases carries with ⟨symbols, path, trees⟩
  rcases coherent.reduction path move with ⟨rest, target, rfl, found, path'⟩
  rcases dependable.listed (Table.hasRule_of_move move) with ⟨known, listed, same⟩
  have taken : List.Forall₂ (fun value name => parser.Splices name → value.isNode = true)
      (stack.values.take rule.expansion.length).reverse (rule.expansion.map Symbol.name) := by
    have above := List.forall₂_take rule.expansion.length trees
    rw [List.take_left' (by simp)] at above
    simpa using List.rel_reverse above
  have left : List.Forall₂ (fun value name => parser.Splices name → value.isNode = true)
      (stack.values.drop rule.expansion.length) rest := by
    have below := List.forall₂_drop rule.expansion.length trees
    rwa [List.drop_left' (by simp)] at below
  -- A rule that is the same has the same names, so that it splices nothing but trees.
  have spliced : ∀ own ∈ parser.rules, own.same rule = true →
      List.Forall₂ (fun symbol value => Shape.isSpliced symbol = true → value.isNode = true)
        own.expansion (stack.values.take rule.expansion.length).reverse := by
    intro own member same
    rw [← Rule.names_of_same same, List.forall₂_map_right_iff] at taken
    refine List.forall₂_iff_get.mpr ⟨taken.length_eq.symm, fun index here there splices => ?_⟩
    have tree := (List.forall₂_iff_get.mp taken).2 index there here
    exact tree ⟨own, member, _, List.get_mem .., rfl, splices⟩
  rcases Reductions.exists_reduce builds.plain builds.entries listed same spliced before with
    ⟨value, after, yields, tree⟩
  refine ⟨value, after, target, yields, found,
    ⟨rule.origin :: rest, path', .cons ?_ left⟩, ?_⟩
  · intro splices
    refine tree.resolve_right ?_
    rintro ⟨own, member, same, unwraps⟩
    rw [← (Rule.same_iff.mp same).1] at splices
    exact dependable.inlined member splices unwraps
  · refine tree.imp_right ?_
    rintro ⟨own, member, same, unwraps⟩
    rcases path'.exists_moves with ⟨source, moves⟩
    exact ⟨own, member, unwraps, source, (Rule.same_iff.mp same).1 ▸ moves⟩

end Carries

/-! ## Tokens -/

/-- What feeding a token comes to where nothing goes wrong: the stack is kept up, the parse ends, or
the token is rejected. The reductions may be cut off. -/
def Settled (parser : Parser) (starting : State) (ending : Option State)
    (stack : Stack State Value) :
    Outcome Value Failure → Prop
  | .shifted => ending = none ∧ parser.Carries starting stack
  | .finished value =>
    ∃ target, ending = some target ∧ (value.isNode = true ∨ parser.MayUnwrap target)
  | .rejected _ => True
  | .failed _ => False
  | .endless => True

/-- Nothing goes wrong where a token is fed to a stack that is kept up. Induction on the reductions
that are made. -/
theorem feed_settled (dependable : parser.Dependable)
    (builds : parser.reductions.Builds growth parser.rules) (closed : parser.table.Closed starting)
    {ending : Option State} (isEnd : ending.isSome = true → token.kind = Token.endKind)
    (apart : ending = none → ¬parser.Splices token.kind) (fuel : Nat) :
    ∀ {stack : Stack State Value} {before : Workspace} {outcome : Outcome Value Failure},
      parser.Carries starting stack →
      (parser.table.feed (parser.effects token) token.kind ending fuel stack).Gives before
        (outcome, stack') after →
      parser.Settled starting ending stack' outcome := by
  induction fuel with
  | zero =>
      intro stack before outcome _ gives
      cases (Work.gives_pure.mp gives).1
      trivial
  | succ fuel ih =>
      intro stack before outcome carries gives
      rw [Table.feed] at gives
      cases move : parser.table.move stack.states token.kind with
      | lost fault =>
          rcases carries with ⟨symbols, path, _⟩
          exact absurd move (closed.move_ne_lost path)
      | rejected expected =>
          rw [move] at gives
          rcases Work.gives_bind.mp gives with ⟨_, _, _, gives⟩
          cases (Work.gives_pure.mp gives).1
          trivial
      | shift target =>
          rw [move] at gives
          rcases Work.gives_bind.mp gives with ⟨_, _, _, gives⟩
          dsimp only at gives
          split at gives
          next ends =>
            rcases Table.move_eq_shift move with ⟨_, _, moves⟩
            rw [isEnd ends] at moves
            exact absurd moves closed.not_moves_end
          next going =>
            have none : ending = none := by simpa using going
            rcases Work.gives_bind.mp gives with ⟨shifted, _, shifting, gives⟩
            have silent : (parser.effects token).shift = pure (.ok (.token token)) := by
              simp only [effects, builds.shift_eq]
              rfl
            rw [silent] at shifting
            rcases Work.gives_pure.mp shifting with ⟨rfl, rfl⟩
            cases (Work.gives_pure.mp gives).1
            exact ⟨none, carries.shift move (apart none) _⟩
      | reduce rule =>
          rw [move] at gives
          rcases Work.gives_bind.mp gives with ⟨_, between, _, gives⟩
          rcases Work.gives_bind.mp gives with ⟨reduced, _, reducing, gives⟩
          rcases carries.reduce dependable builds closed.toCoherent move between with
            ⟨value, later, target, yields, found, carries', tree⟩
          cases (reducing.unique yields).1
          simp only [Table.push, found] at gives
          split at gives
          next ends =>
            cases (Work.gives_pure.mp gives).1
            exact ⟨target, (Table.ended_iff.mp ends).symm, tree⟩
          next => exact ih carries' gives

/-- What a parse ends with: a tree, or perhaps the only child of a rule that leads to the end. -/
def Results (parser : Parser) (ending : State) (value : Value) : Prop :=
  value.isNode = true ∨ parser.MayUnwrap ending

/-- Where tokens have led to a stack that is kept up, another token is taken or blamed. -/
theorem feedAs_settled {isEnd : Bool} {answer : Except Failure Value}
    (gives : (parser.feedAs isEnd session token).Gives before (answer, next) after)
    (dependable : parser.Dependable) (builds : parser.reductions.Builds growth parser.rules)
    (closed : parser.table.Closed session.starting)
    (arrives : ∃ shifted, parser.Arrives shifted session)
    (carries : parser.Carries session.starting session.stack)
    (ends : isEnd = true ↔ token.kind = Token.endKind)
    (apart : isEnd = false → ¬parser.Splices token.kind) :
    match answer with
    | .ok value =>
      if isEnd then parser.Results session.ending value else parser.Carries next.starting next.stack
    | .error failure => failure.isStuck = true := by
  rcases arrives with ⟨shifted, arrives⟩
  have same : (if isEnd then some session.ending else none) = endingFor session token.kind := by
    unfold endingFor
    simp only [ends]
  unfold feedAs at gives
  rcases Work.gives_bind.mp gives with ⟨⟨outcome, stack⟩, between, fed, gives⟩
  have settled := feed_settled dependable builds closed
    (fun isSome => endingFor_isSome (same ▸ isSome))
    (fun none => apart (by cases isEnd <;> simp_all)) _ carries fed
  have finite := dependable.finite arrives token.kind
  rw [← same] at finite
  have done := (Table.feed_of_not_diverges (parser.effects token) before finite
    (mt Table.diverges_of_reductionBound finite)).1
  rw [show (parser.table.feed (parser.effects token) token.kind _ _ session.stack).run before = _
    from fed] at done
  cases outcome with
  | shifted =>
      cases (Work.gives_pure.mp gives).1
      cases isEnd with
      | false => exact settled.2
      | true => cases settled.1
  | finished value =>
      cases (Work.gives_pure.mp gives).1
      rcases settled with ⟨target, ended, tree⟩
      cases isEnd with
      | false => cases ended
      | true =>
          cases ended
          exact tree
  | rejected expected =>
      cases (Work.gives_pure.mp gives).1
      rfl
  | failed failure => exact settled.elim
  | endless => exact absurd rfl done

/-! ## Texts -/

/-- A parser that calls nothing while it parses, and whose lexers take up some text with each match.
Where it is asked for a start symbol it has one, or says what is wrong with the question. -/
structure Handless (parser : Parser) : Prop where
  starts : ∀ text symbol, (∃ session, parser.start text symbol = .ok session) ∨
    ∃ fault, parser.start text symbol = .error (.configuration fault)
  steady : parser.Steady
  whole : parser.whole.Steady
  builds : ∃ growth, parser.reductions.Builds growth parser.rules
  owns : ∀ {lexer : ContextualLexer}, parser.source.reader = .contextual lexer →
    ∀ {state : State}, (parser.table.row? state).isSome = true →
      ∃ own, assoc? lexer.lexers state = some own

/-- How a parse ends where nothing goes wrong: with a result, with a failure that blames a position
of the text, or with a lexer that cannot be prepared. -/
def Ends (parser : Parser) (ending : State) : Except Failure Value → Prop
  | .ok value => parser.Results ending value
  | .error failure =>
    (failure.isStuck = true ∧ failure.position?.isSome = true) ∨
      ∃ lexer ∈ parser.source.reader.lexers, lexer.vocabulary.get.1 = .error failure

theorem position?_passing (failure : Failure) (standpoint : Standpoint) (last : Option Token) :
    (failure.passing standpoint last).position? = failure.position? := by
  cases failure <;> rfl

theorem Ends.passing {ending : State} (steady : parser.Steady)
    (ends : parser.Ends ending (.error failure)) (standpoint : Standpoint) (last : Option Token) :
    parser.Ends ending (.error (failure.passing standpoint last)) := by
  rcases ends with blames | ⟨lexer, member, unprepared⟩
  · left
    rwa [isStuck_passing, position?_passing]
  · have unstuck := (steady.lexers lexer member).prepared failure unprepared
    cases failure with
    | stuckToken => cases unstuck
    | _ => exact .inr ⟨lexer, member, unprepared⟩

/-- A reader has a lexer to ask where the states of a parse are a path of the table. -/
theorem Handless.knows (handless : parser.Handless) (closed : parser.table.Closed session.starting)
    (carries : parser.Carries session.starting session.stack) :
    parser.source.reader.Knows session.standing? := by
  intro lexer contextual
  rcases carries with ⟨symbols, path, _⟩
  rcases path.exists_top with ⟨top, below, states⟩
  have row : (parser.table.row? top).isSome = true := by
    rw [states] at path
    cases path with
    | start => exact closed.start_row
    | move _ moves => exact closed.target_row moves
  rcases handless.owns contextual row with ⟨own, known⟩
  exact ⟨⟨session.stack.states.length, top⟩,
    own, by simp [Session.standing?, states], known⟩

theorem Handless.fetch_ends (handless : parser.Handless)
    (closed : parser.table.Closed session.starting)
    (carries : parser.Carries session.starting session.stack) {cursor : Cursor}
    (here : session.cursor = some cursor)
    (fetched : (parser.fetch session).Gives before (.error failure, next) after) :
    parser.Ends session.ending (.error failure) := by
  rcases handless.steady.fetch_advances fetched here with ⟨met, _, advances⟩
  unfold fetch at fetched
  rw [here] at fetched
  rcases Work.gives_map.mp fetched with ⟨⟨answer, met'⟩, read, same⟩
  cases same
  refine (Reader.next_fails handless.steady.lexers (handless.knows closed carries) read).imp_left
    fun stuck => ⟨stuck, ?_⟩
  have answered := advances.answered
  cases failure with
  | stuckText => rfl
  | stuckToken blamed =>
      rcases answered with ⟨token, offends, passes⟩
      rcases passes.within with ⟨start, _, starts, _⟩
      simp [Failure.position?, offends, Offender.place, starts]
  | _ => cases stuck

theorem startPos_endOfInput {last : Option Token}
    (placed : ∀ token, last = some token → token.place.startPos.isSome = true) :
    (Token.endOfInput last).place.startPos.isSome = true := by
  cases last with
  | none => rfl
  | some token => exact placed token rfl

theorem kind_endOfInput (last : Option Token) : (Token.endOfInput last).kind = Token.endKind := by
  cases last <;> rfl

/-- A run of a parse ends as it should. Induction on the tokens that it takes, each of which takes
up some of the text that is left. -/
theorem Handless.runWithin_ends (handless : parser.Handless) (dependable : parser.Dependable)
    {stream : TokenStream} {answer : Except Failure Value} (fuel : Nat) :
    ∀ {session : Session} {before : Workspace} {last : Option Token} {cursor : Cursor},
      session.cursor = some cursor → cursor.text.size - cursor.counter.position < fuel →
      parser.table.Closed session.starting → (∃ shifted, parser.Arrives shifted session) →
      parser.Carries session.starting session.stack →
      (∀ token, last = some token → token.place.startPos.isSome = true) →
      (parser.runWithin fuel stream last session).Gives before (answer, final) after →
      parser.Ends session.ending answer := by
  rcases handless.builds with ⟨growth, builds⟩
  induction fuel with
  | zero => exact fun _ enough => absurd enough (Nat.not_lt_zero _)
  | succ fuel ih =>
      intro session before last cursor here enough closed arrives carries placed gives
      rw [runWithin_succ handless.steady.plain, Work.gives_bind] at gives
      rcases gives with ⟨⟨found, met⟩, between, fetched, gives⟩
      rcases handless.steady.fetch_advances fetched here with ⟨ahead, rfl, advances⟩
      rcases arrives with ⟨shifted, arrives⟩
      have aside : ∃ shifted, parser.Arrives shifted { session with cursor := some ahead } :=
        ⟨shifted, .aside arrives rfl rfl rfl⟩
      rcases found with failure | _ | token
      · rcases interrupt_gives gives with ⟨rfl, _⟩
        exact (handless.fetch_ends closed carries here fetched).passing handless.steady _ _
      · rcases Work.gives_bind.mp gives with ⟨⟨fed, left⟩, _, feeding, gives⟩
        have settled := feedAs_settled feeding dependable builds closed aside carries
          (by simp [kind_endOfInput]) (by simp)
        cases fed with
        | ok value =>
            cases (Work.gives_pure.mp gives).1
            exact settled
        | error failure =>
            rcases interrupt_gives gives with ⟨rfl, _⟩
            rcases feedAs_stuck handless.steady.reductions feeding settled with
              ⟨expected, rfl, _⟩
            refine Ends.passing handless.steady (.inl ⟨rfl, ?_⟩) _ _
            exact startPos_endOfInput placed
      · have passes : cursor.Passes token ahead := advances.answered
        rcases passes.within with ⟨start, stop, starts, stops, first, proper, most⟩
        have apart : ¬parser.Splices token.kind := by
          unfold fetch at fetched
          rw [here] at fetched
          rcases Work.gives_map.mp fetched with ⟨⟨answer, met'⟩, read, same⟩
          cases same
          exact dependable.apart read
        rcases Work.gives_bind.mp gives with ⟨⟨fed, left⟩, _, feeding, gives⟩
        have settled := feedAs_settled feeding dependable builds closed aside carries
          (by simp [passes.inside]) fun _ => apart
        have same := feedAs_eq feeding
        cases fed with
        | ok value =>
            have bounded := passes.bounded
            have text := advances.text
            rw [text] at bounded
            have ended := ih (by rw [same]) (by rw [text]; omega) (by rw [same]; exact closed)
              (Arrives.fed aside feeding) settled (by simp [starts]) gives
            rw [same] at ended
            exact ended
        | error failure =>
            rcases interrupt_gives gives with ⟨rfl, _⟩
            rcases feedAs_stuck handless.steady.reductions feeding settled with
              ⟨expected, rfl, _⟩
            refine Ends.passing handless.steady (.inl ⟨rfl, ?_⟩) _ _
            show token.place.startPos.isSome = true
            rw [starts]
            rfl

theorem Steady.innocent (steady : parser.Steady) : parser.Innocent where
  plain := steady.plain
  lexers lexer member := by
    refine ⟨?_, (steady.lexers lexer member).prepared⟩
    rw [(steady.lexers lexer member).silent]
    exact fun _ none => absurd none List.not_mem_nil
  reductions := steady.reductions

theorem carries_of_start {text symbol : Option String}
    (started : parser.start text symbol = .ok session) :
    parser.Carries session.starting session.stack := by
  unfold start at started
  rcases bind_eq_ok.mp started with ⟨name, _, started⟩
  split at started
  next =>
    cases started
    exact ⟨[], .start, .nil⟩
  next => cases started

/-- A parse of a text ends as it should, and where it blames the text it can be said what would have
been accepted. -/
theorem Handless.parse_ends (handless : parser.Handless)
    (dependable : parser.Dependable) {text : String} {symbol : Option String}
    (started : parser.start (some text) symbol = .ok session) {answer : Except Failure Value}
    (parsed : (parser.parse text symbol).run.Gives before answer after) :
    parser.Ends session.ending answer ∧
      ∀ failure, answer = .error failure → failure.isStuck = true → ∀ asked,
        ∃ accepted later,
        (parser.acceptable failure).Gives asked (.ok accepted) later := by
  rw [parse_run started] at parsed
  rcases Work.gives_map.mp parsed with ⟨⟨answer, final⟩, ran, rfl⟩
  have closed := dependable.closed started
  have here := (start_eq_ok started).1
  have carries := carries_of_start started
  have placed : ∀ token, session.last? = some token → token.place.startPos.isSome = true := by
    simp [Session.last?, here, Cursor.ofText]
  have enough : (Cursor.ofText text).text.size - (Cursor.ofText text).counter.position <
      tokenBound session + 1 := by
    simp only [tokenBound, here, Option.map_some]
    omega
  refine ⟨handless.runWithin_ends dependable _ here enough closed ⟨0, .start started⟩
    carries placed ran, ?_⟩
  rintro failure rfl stuck asked
  cases failure with
  | stuckText => exact ⟨[], asked, rfl⟩
  | stuckToken blamed =>
      rcases handless.steady.innocent.runWithin_expects _ ⟨0, .start started⟩ ran with
        ⟨stands, starting, ⟨shifted, arrives⟩, _⟩
      rw [acceptable_eq stands]
      rw [← starting] at closed
      rcases exists_accepted arrives closed (dependable.finite arrives) asked with
        ⟨accepted, later, gives, _⟩
      exact ⟨accepted, later, gives⟩
  | _ => cases stuck

/-! ## Parsers that are loaded -/

section Loading

variable {terminals : List Terminal} {rules : List Rule} {table : Table State} {ignored : List Data}
  {options : Options} {made made' : Workspace} {source : Data}
  {changes stored : List (String × Data)}

/-- Every state with a row has a lexer. -/
theorem exists_own_of_make
    (make : (make terminals rules table ignored options).Yields made parser made')
    {lexer : ContextualLexer} (contextual : parser.source.reader = .contextual lexer)
    {state : State} (row : (parser.table.row? state).isSome = true) :
    ∃ own, assoc? lexer.lexers state = some own := by
  rcases assemble_of_make make with ⟨count, assembled, _⟩
  simp only [assemble, bind_eq_ok] at assembled
  rcases assembled with
    ⟨_, _, _, _, _, _, _, _, _, _, ⟨source, _⟩, sourced, _, _, _, _, assembled⟩
  cases assembled
  unfold makeSource at sourced
  split at sourced
  · rcases bind_eq_ok.mp sourced with ⟨_, _, sourced⟩
    rcases bind_eq_ok.mp sourced with ⟨⟨lexer', others⟩, lexed, sourced⟩
    cases sourced
    cases contextual
    rcases Option.isSome_iff_exists.mp row with ⟨entries, here⟩
    have listed : assoc? (table.rows.map fun entry => (entry.1, entry.2.map (·.1))) state =
        some (entries.map (·.1)) := by
      rw [assoc?_map, show assoc? table.rows state = some entries from here]
      rfl
    rcases ContextualLexer.exists_own lexed listed with ⟨own, known, _⟩
    exact ⟨own, known⟩
  · rcases bind_eq_ok.mp sourced with ⟨_, _, sourced⟩
    rcases bind_eq_ok.mp sourced with ⟨_, _, sourced⟩
    cases sourced
    cases contextual

/-- Options without handlers of any kind, with a start symbol. -/
structure Bare (options : Options) : Prop where
  starts : options.starts ≠ []
  transformer : options.transformer = .ok none
  callbacks : options.callbacks = .ok []
  postLexer : options.postLexer = .ok none

/-- A parser that is made with options that are all data has no handlers. -/
theorem bare_of_make (known : Options.ofKnown (asSettings stored) = .ok options)
    (made : (make terminals rules table ignored options).Yields before parser after) :
    Bare options := by
  rcases Options.madeOf_of_ofKnown known with ⟨_, _, _, _, transforms, calls, lexes, _⟩
  rcases assemble_of_make made with ⟨count, assembled, _⟩
  simp only [assemble, bind_eq_ok] at assembled
  rcases assembled with
    ⟨_, _, transformer, transformed, _, _, callbacks, called, _, _, ⟨source, _⟩,
    sourced, _⟩
  rcases exists_postLexer sourced with ⟨postLexer, postLexed⟩
  refine ⟨(Options.ofKnown_eq_ok known).1, ?_, ?_, ?_⟩
  · rw [transforms]
    have read := transforms.symm.trans (usable_eq_ok transformed)
    rw [read, (Options.readTransformer_eq_ok.mp read).2]
  · rw [calls]
    have none := Options.readCallbacks_eq_ok (calls.symm.trans (usable_eq_ok called))
    simp [Options.readCallbacks, none]
  · rw [lexes]
    have none := Options.readPostLexer_eq_ok (lexes.symm.trans postLexed)
    simp [Options.readPostLexer, none]

theorem foldl_put_asSettings (changes stored : List (String × Data)) :
    (asSettings changes).foldl (fun merged change => Data.put merged change.1 change.2)
        (asSettings stored) =
      asSettings
        (changes.foldl (fun merged change => Data.put merged change.1 change.2) stored) := by
  induction changes generalizing stored with
  | nil => rfl
  | cons change changes ih =>
      have first : Data.put (asSettings stored) change.1 (.data change.2) =
          asSettings (Data.put stored change.1 change.2) := Data.put_map Setting.data ..
      show (asSettings changes).foldl _ (Data.put (asSettings stored) change.1 (.data change.2)) = _
      rw [first, ih]
      rfl

/-- A parser that is loaded with changes that are data has no handlers. -/
theorem exists_make_of_load
    (loaded : (load source (asSettings changes)).Yields before parser after) :
    ∃ terminals rules table ignored options between,
      (make terminals rules table ignored options).Yields between parser after ∧
        Bare options := by
  unfold load at loaded
  simp only [Run.forIn_lift] at loaded
  split at loaded
  · split at loaded
    · simp only [Run.yields_bind, Run.yields_lift, storedSettings_eq_ok] at loaded
      rcases loaded with ⟨_, _, _, _, _, _, _, _, _, _, _, _, table, _, _, _, _, _, _, _,
        ⟨⟨_, _, _, _, _, rfl⟩, _⟩, options, _, made, _, _, _, terminals, _, _, _,
        _, _, rules, _, _, ignored, _, _, done⟩
      have known := Options.ofSettings_yields made
      rw [foldl_put_asSettings] at known
      exact ⟨terminals, rules, table, ignored, options, _, done, bare_of_make known done⟩
    · rcases Run.yields_bind.mp loaded with ⟨_, _, failed, _⟩
      exact absurd failed Run.yields_throw
  · rcases Run.yields_bind.mp loaded with ⟨_, _, failed, _⟩
    exact absurd failed Run.yields_throw

/-- A parser that has been made knows where to start from each of its start symbols. -/
theorem starts_of_make
    (make : (make terminals rules table ignored options).Yields made parser made')
    (nonempty : options.starts ≠ []) (text symbol : Option String) :
    (∃ session, parser.start text symbol = .ok session) ∨
      ∃ fault, parser.start text symbol = .error (.configuration fault) := by
  rcases assemble_of_make make with ⟨count, assembled, _⟩
  simp only [assemble, bind_eq_ok] at assembled
  rcases assembled with ⟨_, checked, _, _, _, _, _, _, _, _, _, _, _, _, _, _, assembled⟩
  cases assembled
  have known {name : String} (listed : Data.text name ∈ options.starts) :
      ∃ starting ending, assoc? table.starts name = some starting ∧
        assoc? table.ends name = some ending := by
    have fine := forM_eq_ok checked _ listed
    simp only [checkStart] at fine
    split at fine
    next both =>
      rcases Bool.and_eq_true_iff.mp both with ⟨starts, ends⟩
      rcases Option.isSome_iff_exists.mp starts with ⟨starting, starts⟩
      rcases Option.isSome_iff_exists.mp ends with ⟨ending, ends⟩
      exact ⟨starting, ending, starts, ends⟩
    next => cases fine
  have texts := texts_of_checkStart checked
  unfold Parser.start
  cases symbol with
  | some name =>
      by_cases listed : options.starts.contains (.text name) = true
      · rcases known (List.contains_iff_mem.mp listed) with ⟨starting, ending, starts, ends⟩
        left
        simp only [chooseStart, listed, if_true, bind, Except.bind, starts, ends]
        exact ⟨_, rfl⟩
      · right
        simp only [chooseStart, listed]
        exact ⟨_, rfl⟩
  | none =>
      rcases same : options.starts with _ | ⟨first, _ | ⟨second, others⟩⟩
      · exact absurd same nonempty
      · rcases texts first (by simp [same]) with ⟨name, rfl⟩
        rcases known (by rw [same]; exact List.mem_singleton_self _) with
          ⟨starting, ending, starts, ends⟩
        left
        simp only [chooseStart, same, bind, Except.bind, starts, ends]
        exact ⟨_, rfl⟩
      · right
        simp only [chooseStart, same]
        exact ⟨_, rfl⟩

/-- A parser that has been made without handlers calls nothing. -/
theorem handless_of_make
    (make : (make terminals rules table ignored options).Yields made parser made')
    (bare : Bare options)
    (consuming : ∀ lexer ∈ parser.whole :: parser.source.reader.lexers, lexer.Consuming) :
    parser.Handless where
  starts := starts_of_make make bare.starts
  steady := by
    refine steady_of_make make bare.postLexer bare.callbacks ?_
      (List.forall_mem_cons.mp consuming).2
    intro transformer given
    cases bare.transformer.symm.trans given
  whole := by
    rcases assemble_of_make make with ⟨count, assembled, _⟩
    simp only [assemble, bind_eq_ok, bare.callbacks] at assembled
    rcases assembled with ⟨_, _, _, _, _, _, _, ⟨⟩, _, _, _, _, _, whole, _, _, assembled⟩
    cases assembled
    exact Lexer.steady_of_make whole rfl (List.forall_mem_cons.mp consuming).1
  builds := by
    have same : parser.rules = rules := by
      rcases assemble_of_make make with ⟨count, assembled, _⟩
      simp only [assemble, bind_eq_ok] at assembled
      rcases assembled with ⟨_, _, _, _, _, _, _, _, _, _, _, _, _, _, _, _, assembled⟩
      cases assembled
      rfl
    rw [same]
    exact ⟨_, builds_of_make make bare.transformer⟩
  owns := exists_own_of_make make

end Loading

end Parser

end Lalr
