import Lalr.Proofs.Lexer.Progress
import Lalr.Proofs.Parser.Driving
import Lalr.Proofs.Shaping.Innocence

/-!
# What a run blames

A run that fails on its input blames a character, a token or the end of the input. Where
its lexers take up text with every match, the character or the token lies behind the place
where the run began, and the end of the input is blamed only where no text is left.
-/

namespace Lalr.Parser

variable {parser : Parser} {session met final : Session} {before after : Workspace}
  {failure : Failure} {answer : Except Failure Value} {token : Token} {isEnd : Bool}

/-! ## What a token is rejected for -/

/-- Where feeding a token ends without success, the table rejects the token on the stack that is
left, or it is not the input that is blamed. Induction on the reductions that are made. -/
theorem feed_stuck (unstuck : parser.reductions.Unstuck) {ending : Option State} (fuel : Nat) :
    ∀ {stack stack' : Stack State Value} {before : Workspace} {outcome : Outcome Value Failure},
      (parser.table.feed (parser.effects token) token.kind ending fuel stack).Gives before
        (outcome, stack') after →
      match outcome with
      | .rejected expected => parser.table.move stack'.states token.kind = .rejected expected
      | .failed failure => failure.isStuck = false
      | _ => True := by
  induction fuel with
  | zero =>
      intro stack stack' before outcome gives
      rcases Work.gives_pure.mp gives with ⟨same, _⟩
      cases same
      trivial
  | succ fuel ih =>
      intro stack stack' before outcome gives
      rw [Table.feed] at gives
      cases move : parser.table.move stack.states token.kind with
      | lost fault =>
          rw [move] at gives
          rcases Work.gives_pure.mp gives with ⟨same, _⟩
          cases same
          rfl
      | rejected expected =>
          rw [move] at gives
          rcases Work.gives_bind.mp gives with ⟨_, _, _, gives⟩
          rcases Work.gives_pure.mp gives with ⟨same, _⟩
          cases same
          exact move
      | shift target =>
          rw [move] at gives
          rcases Work.gives_bind.mp gives with ⟨_, _, _, gives⟩
          dsimp only at gives
          split at gives
          · rcases Work.gives_pure.mp gives with ⟨same, _⟩
            cases same
            rfl
          · rcases Work.gives_bind.mp gives with ⟨shifted, between, shifting, gives⟩
            cases shifted with
            | error failure =>
                rcases Work.gives_pure.mp gives with ⟨same, _⟩
                cases same
                exact (unstuck.shift token).isStuck shifting
            | ok value =>
                rcases Work.gives_pure.mp gives with ⟨same, _⟩
                cases same
                trivial
      | reduce rule =>
          rw [move] at gives
          rcases Work.gives_bind.mp gives with ⟨_, _, _, gives⟩
          rcases Work.gives_bind.mp gives with ⟨reduced, between, reducing, gives⟩
          cases reduced with
          | error failure =>
              rcases Work.gives_pure.mp gives with ⟨same, _⟩
              cases same
              exact (unstuck.reduce rule _).isStuck reducing
          | ok value =>
              dsimp only at gives
              unfold Table.push at gives
              cases found : parser.table.target (stack.states.drop rule.expansion.length)
                rule.origin with
              | error fault =>
                  rw [found] at gives
                  rcases Work.gives_pure.mp gives with ⟨same, _⟩
                  cases same
                  rfl
              | ok target =>
                  rw [found] at gives
                  dsimp only at gives
                  split at gives
                  · rcases Work.gives_pure.mp gives with ⟨same, _⟩
                    cases same
                    trivial
                  · exact ih gives

/-- A session that rejects a token is left where the table has no move for it. -/
theorem feedAs_stuck (unstuck : parser.reductions.Unstuck)
    (gives : (parser.feedAs isEnd session token).Gives before (.error failure, final) after)
    (stuck : failure.isStuck = true) :
    ∃ expected, failure = rejection token expected final ∧
      parser.table.move final.stack.states token.kind = .rejected expected := by
  unfold feedAs at gives
  rcases Work.gives_bind.mp gives with ⟨⟨outcome, stack⟩, between, fed, gives⟩
  have told := feed_stuck unstuck _ fed
  cases outcome with
  | shifted =>
      rcases Work.gives_pure.mp gives with ⟨same, _⟩
      cases same
  | finished value =>
      rcases Work.gives_pure.mp gives with ⟨same, _⟩
      cases same
  | rejected expected =>
      rcases Work.gives_pure.mp gives with ⟨same, _⟩
      cases same
      exact ⟨expected, rfl, told⟩
  | failed failure =>
      rcases Work.gives_pure.mp gives with ⟨same, _⟩
      cases same
      rw [told] at stuck
      cases stuck
  | endless =>
      rcases Work.gives_pure.mp gives with ⟨same, _⟩
      cases same
      cases stuck

/-! ## What a run blames -/

/-- What a failure is about that blames the input, where the parse began at a position: a character
at that position or later, a token that lies there, or the end of the input, for which the parse
then has no move. -/
inductive Blames (parser : Parser) (floor : Nat) : Failure → Session → Prop
  | text {stuck : StuckText} {session : Session} {cursor : Cursor}
      (here : session.cursor = some cursor) (late : floor ≤ stuck.position)
      (inside : stuck.position < cursor.text.size)
      (passed : stuck.position ≤ cursor.counter.position) :
      Blames parser floor (.stuckText stuck) session
  | token {stuck : StuckToken} {session : Session} {cursor : Cursor} {token : Token}
      (here : session.cursor = some cursor) (offends : stuck.offender = .token token)
      (inside : token.kind ≠ Token.endKind) (within : token.Within floor cursor.counter.position)
      (bounded : cursor.counter.position ≤ cursor.text.size) :
      Blames parser floor (.stuckToken stuck) session
  | ending {stuck : StuckToken} {session : Session} {cursor : Cursor} {token : Token}
      {expected : List String} (here : session.cursor = some cursor)
      (offends : stuck.offender = .token token) (ends : token.kind = Token.endKind)
      (ended : cursor.AtEnd)
      (rejects : parser.table.move session.stack.states Token.endKind = .rejected expected) :
      Blames parser floor (.stuckToken stuck) session

namespace Blames

variable {floor floor' : Nat}

theorem mono (blames : parser.Blames floor failure session) (earlier : floor' ≤ floor) :
    parser.Blames floor' failure session := by
  cases blames with
  | text here late inside passed => exact .text here (Nat.le_trans earlier late) inside passed
  | token here offends inside within bounded =>
      exact .token here offends inside (within.mono earlier (Nat.le_refl _)) bounded
  | ending here offends ends ended rejects => exact .ending here offends ends ended rejects

theorem passing (blames : parser.Blames floor failure session) (standpoint : Standpoint)
    (last : Option Token) : parser.Blames floor (failure.passing standpoint last) session := by
  cases blames with
  | text here late inside passed => exact .text here late inside passed
  | token here offends inside within bounded => exact .token here offends inside within bounded
  | ending here offends ends ended rejects => exact .ending here offends ends ended rejects

/-- At the end of a text nothing but the end of the input is blamed. -/
theorem atEnd_of_le {cursor : Cursor} (blames : parser.Blames floor failure session)
    (here : session.cursor = some cursor) (late : cursor.text.size ≤ floor) :
    failure.atEnd = true := by
  cases blames with
  | text here' late' inside passed =>
      cases here.symm.trans here'
      omega
  | token here' offends inside within bounded =>
      cases here.symm.trans here'
      rcases within with ⟨start, stop, _, _, first, proper, last⟩
      omega
  | ending here' offends ends ended rejects => simp [Failure.atEnd, offends, Offender.kind?, ends]

end Blames

theorem interrupt_gives {last : Option Token}
    (gives : (parser.interrupt failure last session).Gives before (answer, final) after) :
    answer = .error (failure.passing session.standpoint last) ∧ final = session := by
  unfold interrupt at gives
  split at gives
  · rcases Work.gives_bind.mp gives with ⟨_, _, _, gives⟩
    rcases Work.gives_pure.mp gives with ⟨same, _⟩
    cases same
    exact ⟨rfl, rfl⟩
  · rcases Work.gives_pure.mp gives with ⟨same, _⟩
    cases same
    exact ⟨rfl, rfl⟩

theorem isStuck_passing (failure : Failure) (standpoint : Standpoint) (last : Option Token) :
    (failure.passing standpoint last).isStuck = failure.isStuck := by
  cases failure <;> rfl

/-- A parser whose source is nothing but a reader of steady lexers, and whose reductions never blame
the input. -/
structure Steady (parser : Parser) : Prop where
  plain : parser.source.postLexer = none
  lexers : ∀ lexer ∈ parser.source.reader.lexers, lexer.Steady
  reductions : parser.reductions.Unstuck

theorem Steady.fetch_advances (steady : parser.Steady) {cursor : Cursor}
    {found : Except Failure (Option Token)}
    (gives : (parser.fetch session).Gives before (found, met) after)
    (here : session.cursor = some cursor) :
    ∃ next, met = { session with cursor := some next } ∧ cursor.Advances found next := by
  unfold fetch at gives
  rw [here] at gives
  rcases Work.gives_map.mp gives with ⟨⟨answer, next⟩, read, same⟩
  cases same
  exact ⟨next, rfl, Reader.next_advances steady.lexers read⟩

/-- A run that blames its input blames something that comes after the place where it began, and
stays in its text. Induction on the tokens that it takes. -/
theorem Steady.runWithin_blames (steady : parser.Steady) {stream : TokenStream} (fuel : Nat) :
    ∀ {session : Session} {before : Workspace} {last : Option Token} {cursor : Cursor},
      session.cursor = some cursor →
      (parser.runWithin fuel stream last session).Gives before (.error failure, final) after →
      failure.isStuck = true →
      parser.Blames cursor.counter.position failure final ∧
        final.cursor.map Cursor.text = some cursor.text := by
  induction fuel with
  | zero =>
      intro session before last cursor here gives stuck
      rcases interrupt_gives gives with ⟨same, _⟩
      cases same
      cases stuck
  | succ fuel ih =>
      intro session before last cursor here gives stuck
      rw [runWithin_succ steady.plain, Work.gives_bind] at gives
      rcases gives with ⟨⟨found, met⟩, between, fetched, gives⟩
      rcases steady.fetch_advances fetched here with ⟨next, rfl, advances⟩
      rcases advances with ⟨text, forward, answered⟩
      rcases found with failure' | _ | token
      · rcases interrupt_gives gives with ⟨same, rfl⟩
        cases same
        rw [isStuck_passing] at stuck
        refine ⟨Blames.passing ?_ _ _, by simp [text]⟩
        cases failure' with
        | stuckText blamed => exact .text rfl answered.1 answered.2.1 answered.2.2
        | stuckToken blamed =>
            rcases answered with ⟨token, offends, passes⟩
            exact .token rfl offends passes.inside passes.within passes.bounded
        | _ => cases stuck
      · rcases Work.gives_bind.mp gives with ⟨⟨fed, left⟩, between', feeding, gives⟩
        cases fed with
        | ok value =>
            rcases Work.gives_pure.mp gives with ⟨same, _⟩
            cases same
        | error failure' =>
            rcases interrupt_gives gives with ⟨same, rfl⟩
            cases same
            rw [isStuck_passing] at stuck
            rcases feedAs_stuck steady.reductions feeding stuck with ⟨expected, rfl, rejects⟩
            have ends : (Token.endOfInput last).kind = Token.endKind := by cases last <;> rfl
            rw [ends] at rejects
            have kept : final.cursor = some next := by rw [feedAs_eq feeding]
            exact ⟨Blames.passing
              (.ending kept rfl ends answered rejects) _ _, by simp [kept, text]⟩
      · rcases Work.gives_bind.mp gives with ⟨⟨fed, left⟩, between', feeding, gives⟩
        have kept : left.cursor = some next := by rw [feedAs_eq feeding]
        cases fed with
        | ok value =>
            rcases ih kept gives stuck with ⟨blames, same⟩
            exact ⟨blames.mono forward, by rw [same, text]⟩
        | error failure' =>
            rcases interrupt_gives gives with ⟨same, rfl⟩
            cases same
            rw [isStuck_passing] at stuck
            rcases feedAs_stuck steady.reductions feeding stuck with ⟨expected, rfl, rejects⟩
            exact ⟨Blames.passing
              (.token kept rfl answered.inside answered.within answered.bounded) _ _,
              by simp [kept, text]⟩

theorem Steady.resume_blames (steady : parser.Steady) {cursor : Cursor}
    (here : session.cursor = some cursor)
    (gives : (parser.resume session).Gives before (.error failure, final) after)
    (stuck : failure.isStuck = true) :
    parser.Blames cursor.counter.position failure final ∧
      final.cursor.map Cursor.text = some cursor.text := by
  rw [resume, here] at gives
  exact steady.runWithin_blames _ here gives stuck

/-- The lexers of a parser without callbacks are steady if their terminals match at least one
character each. -/
theorem lexers_steady {options : Options} {settings : LexerSettings} {table : Table State}
    {number count : Nat} {source : TokenSource}
    (made : makeSource options settings table number = .ok (source, count))
    (silent : settings.callbacks = [])
    (consuming : ∀ lexer ∈ source.reader.lexers, lexer.Consuming) :
    ∀ lexer ∈ source.reader.lexers, lexer.Steady := by
  unfold makeSource at made
  split at made
  · rcases bind_eq_ok.mp made with ⟨postLexer, _, made⟩
    rcases bind_eq_ok.mp made with ⟨⟨lexer, count⟩, lexed, made⟩
    cases made
    rcases ContextualLexer.make_eq_ok lexed with ⟨root, each⟩
    simp only [Reader.lexers, List.forall_mem_cons, List.forall_mem_map] at consuming ⊢
    refine ⟨Lexer.steady_of_make root silent consuming.1, fun entry member => ?_⟩
    rcases exists_of_mem_right each member with ⟨place, _, _, number, own⟩
    exact Lexer.steady_of_make own silent (consuming.2 entry member)
  · rcases bind_eq_ok.mp made with ⟨lexer, lexed, made⟩
    rcases bind_eq_ok.mp made with ⟨postLexer, _, made⟩
    cases made
    simp only [Reader.lexers, List.mem_singleton, forall_eq] at consuming ⊢
    exact Lexer.steady_of_make lexed silent consuming

/-- Nothing that a parser does on reductions and shifts blames the input if no handler of its
transformer does. -/
theorem reductions_unstuck_of_make {terminals : List Terminal} {rules : List Rule}
    {table : Table State} {ignored : List Data} {options : Options} {made made' : Workspace}
    (make : (make terminals rules table ignored options).Yields made parser made')
    (calm : ∀ transformer, options.transformer = .ok (some transformer) → transformer.Unstuck) :
    parser.reductions.Unstuck := by
  rcases assemble_of_make make with ⟨count, assembled, _⟩
  simp only [assemble, bind_eq_ok] at assembled
  rcases assembled with
    ⟨_, _, transformer, transformed, reductions, reduced, _, _, _, _, _, _, _, _,
      _, _, assembled⟩
  cases assembled
  refine Reductions.unstuck_of_make ?_ reduced
  intro transformer known
  refine calm transformer ?_
  cases given : options.transformer with
  | error fault =>
      rw [given] at transformed
      cases transformed
  | ok given' =>
      rw [given] at transformed
      cases transformed
      exact congrArg _ known

/-- A parser that has been made without a post-lexer and without callbacks is steady if its
terminals match at least one character each and the handlers of its transformer never blame the
input. -/
theorem steady_of_make {terminals : List Terminal} {rules : List Rule} {table : Table State}
    {ignored : List Data} {options : Options} {made made' : Workspace}
    (make : (make terminals rules table ignored options).Yields made parser made')
    (plain : options.postLexer = .ok none) (silent : options.callbacks = .ok [])
    (calm : ∀ transformer, options.transformer = .ok (some transformer) → transformer.Unstuck)
    (consuming : ∀ lexer ∈ parser.source.reader.lexers, lexer.Consuming) : parser.Steady := by
  refine ⟨postLexer_of_make make plain, ?_, reductions_unstuck_of_make make calm⟩
  rcases assemble_of_make make with ⟨count, assembled, _⟩
  simp only [assemble, bind_eq_ok, silent] at assembled
  rcases assembled with
    ⟨_, _, _, _, _, _, callbacks, called, flags, _, ⟨source, _⟩, sourced, _, _,
      _, _, assembled⟩
  cases assembled
  cases called
  exact lexers_steady sourced rfl consuming

end Lalr.Parser
