import Lalr.Proofs.Lexer.Purity
import Lalr.Proofs.Parser.Resemblance
import Lalr.Proofs.Parser.Stepping

/-!
# Feeding a parse by hand

With a basic lexer the tokens of a text do not depend on the parse. If callbacks are
pure and handlers discreet, all of the text may therefore be cut into tokens first,
which are then fed by hand to a parse that has no text at all.
-/

namespace Lalr.Parser

variable {parser : Parser} {lexer : Lexer} {session met next : Session}
  {before between middle after : Workspace} {token : Token} {found : Option Token}

/-- Feeds some tokens by hand, one after the other. -/
def feedInTurn (parser : Parser) : List Token → Session → Work (Except Failure Unit × Session)
  | [], session => return (.ok (), session)
  | token :: rest, session => do
    match ← parser.feed session token with
    | (.ok _, session) => parser.feedInTurn rest session
    | (.error failure, session) => return (.error failure, session)

/-- Cuts a text into tokens, of which there may be `limit`, and feeds them by hand to a parse
without a text. The token that ends the input lies at the last of them. -/
def parseByHand (parser : Parser) (limit : Nat) (text : String) (symbol : Option String) :
    Run Value := do
  let drained ← parser.tokens text false limit
  if let some failure := drained.failure then throw failure
  let session ← Run.lift (parser.start none symbol)
  let (answer, session) ← parser.feedInTurn drained.tokens session
  Run.lift answer
  let (answer, _) ← parser.feed session (endToken session drained.tokens.getLast?)
  Run.lift answer

theorem drain_succ {source : TokenSource} (plain : source.postLexer = none) (limit : Nat)
    (stream : TokenStream) (cursor : Cursor) :
    source.drain (limit + 1) stream cursor =
      source.reader.next none cursor >>= fun (found, next) =>
        match found with
        | .error failure => return { failure := some failure, cursor := next }
        | .ok none => return { cursor := next }
        | .ok (some token) => (do
          let drained ← source.drain limit stream next
          return { drained with tokens := token :: drained.tokens }) := by
  rw [TokenSource.drain, TokenSource.pull, plain]
  simp only [bind_assoc, pure_bind]
  congr
  funext (found, next)
  rcases found with failure | _ | token <;> rfl

/-- What a fetch finds with a pure lexer is found under any number, without a parse and in any
workspace. -/
theorem fetch_pure (basic : parser.source.reader = .basic lexer) (pure : lexer.Pure)
    (gives : (parser.fetch session).Gives before (.ok found, met) after) (number : Nat)
    (before' : Workspace) :
    ∃ cursor next after', session.cursor = some cursor ∧ met.cursor = some next ∧
      (Lexer.next { lexer with number } none cursor).Gives before' (.ok found, next) after' ∧
      after'.Alike before' := by
  rcases fetch_eq_ok gives with ⟨cursor, next, here, rfl, read⟩
  rw [basic] at read
  rcases Lexer.next_pure pure read number none before' with ⟨after', read, alike⟩
  exact ⟨cursor, next, after', here, rfl, read, alike⟩

/-- With a pure lexer a fetch leaves the forest and the notes as they are. -/
theorem fetch_alike (basic : parser.source.reader = .basic lexer) (pure : lexer.Pure)
    (gives : (parser.fetch session).Gives before (.ok found, met) after) : after.Alike before := by
  rcases fetch_eq_ok gives with ⟨cursor, next, here, rfl, read⟩
  rw [basic] at read
  rcases Lexer.next_pure pure read lexer.number session.standing? before with
    ⟨after', read', alike⟩
  rcases Work.Gives.unique read read' with ⟨_, rfl⟩
  exact alike

/-- The tokens of a run that comes to a value are those of the text. -/
theorem drain_runs (basic : parser.source.reader = .basic lexer) (pure : lexer.Pure)
    {source : TokenSource} {number : Nat} (reader : source.reader = .basic { lexer with number })
    (plain : source.postLexer = none) {steps : Nat} {tokens : List Token}
    {raw : Except Failure Value} {value : Value}
    (runs : parser.Runs steps session before tokens raw after) (accepted : raw = .ok value) :
    ∀ {limit : Nat} {cursor : Cursor} (before' : Workspace), steps ≤ limit →
      session.cursor = some cursor →
      ∃ drained after', (source.drain limit {} cursor).Gives before' drained after' ∧
        drained.tokens = tokens ∧ drained.failure = none ∧ after'.Alike before' := by
  induction runs with
  | unread => cases accepted
  | refused => cases accepted
  | fed fetched fed rest ih =>
      intro limit cursor before' enough here
      rcases Nat.exists_eq_add_of_le' (Nat.le_of_add_left_le enough) with ⟨limit, rfl⟩
      rcases fetch_pure basic pure fetched number before' with
        ⟨_, next, between', here', there, read, alike⟩
      cases here.symm.trans here'
      rcases ih accepted between' (Nat.le_of_succ_le_succ enough)
        (by rw [feedAs_eq fed, there]) with
        ⟨drained, after', drains, same, fine, alike'⟩
      refine ⟨{ drained with tokens := _ :: drained.tokens }, after', ?_, by rw [same], fine,
        alike'.trans alike⟩
      rw [drain_succ plain, reader]
      refine Work.gives_bind.mpr ⟨_, _, read, ?_⟩
      exact Work.gives_bind.mpr ⟨_, _, drains, Work.gives_pure.mpr ⟨rfl, rfl⟩⟩
  | finished fetched ended =>
      intro limit cursor before' enough here
      rcases Nat.exists_eq_add_of_le' enough with ⟨limit, rfl⟩
      rcases fetch_pure basic pure fetched number before' with
        ⟨_, next, between', here', there, read, alike⟩
      cases here.symm.trans here'
      refine ⟨{ cursor := next }, between', ?_, rfl, rfl, alike⟩
      rw [drain_succ plain, reader]
      exact Work.gives_bind.mpr ⟨_, _, read, Work.gives_pure.mpr ⟨rfl, rfl⟩⟩

/-- Feeding the tokens of a run by hand, and then the end of the input, comes to the same value. -/
theorem feedInTurn_runs (basic : parser.source.reader = .basic lexer) (pure : lexer.Pure)
    (discreet : parser.reductions.Discreet) {steps : Nat} {tokens : List Token}
    {raw : Except Failure Value} {value : Value}
    (runs : parser.Runs steps session before tokens raw after) (accepted : raw = .ok value) :
    ∀ {session' : Session} {before' : Workspace}, session'.stack = session.stack →
      session'.ending = session.ending → session'.cursor = none → before.Alike before' →
      (∀ token ∈ tokens, token.kind ≠ Token.endKind) →
      ∃ next' middle' final after', next'.cursor = none ∧
        (parser.feedInTurn tokens session').Gives before' (.ok (), next') middle' ∧
        (parser.feedAs true next' (Token.endOfInput (tokens.getLast? <|> session.last?))).Gives
          middle' (.ok value, final) after' ∧
        after.Alike after' := by
  have resembles : parser.Resembles parser :=
    resembles_of_reductions (.refl _ Rule.same_refl) rfl discreet
  induction runs with
  | unread => cases accepted
  | refused => cases accepted
  | @fed _ session met next before between middle _ token _ tokens _ fetched fed rest ih =>
      intro session' before' stack ending noText alike inside
      have same : met.stack = session.stack ∧ met.ending = session.ending := by
        rcases fetch_eq_ok fetched with ⟨_, _, _, rfl, _⟩
        exact ⟨rfl, rfl⟩
      have alike := (fetch_alike basic pure fetched).trans alike
      rcases (resembles.feedAs false met token).gives alike fed with ⟨middle', fed', alike⟩
      have fed' := feedAs_same fed' (stack.trans same.1.symm) (ending.trans same.2.symm)
      have ending : session'.ending = next.ending := by
        rw [feedAs_eq fed]
        exact ending.trans same.2.symm
      have stack : { session' with stack := next.stack }.stack = next.stack := rfl
      rcases ih accepted stack ending noText alike
          fun token member => inside token (List.mem_cons_of_mem _ member) with
        ⟨next', middle'', final, after', noText, feeds, ended, alike⟩
      have last : ((token :: tokens).getLast? <|> session.last?) =
          (tokens.getLast? <|> next.last?) := by
        rw [last?_of_feedAs fed, last?_of_fetch fetched, List.getLast?_cons]
        cases tokens.getLast? <;> rfl
      refine ⟨next', middle'', final, after', noText, ?_, ?_, alike⟩
      · rw [feedInTurn, feed_eq session' (inside token (List.mem_cons_self ..))]
        exact Work.gives_bind.mpr ⟨_, _, fed', feeds⟩
      · rw [last]
        exact ended
  | @finished session met final before between _ _ fetched ended =>
      intro session' before' stack ending noText alike inside
      have same : met.stack = session.stack ∧ met.ending = session.ending := by
        rcases fetch_eq_ok fetched with ⟨_, _, _, rfl, _⟩
        exact ⟨rfl, rfl⟩
      have last : endToken met none = Token.endOfInput ([].getLast? <|> session.last?) :=
        congrArg Token.endOfInput (last?_of_fetch fetched)
      have alike := (fetch_alike basic pure fetched).trans alike
      rcases (resembles.feedAs true met (endToken met none)).gives alike ended with
        ⟨after', ended', alike⟩
      have ended' := feedAs_same ended' (stack.trans same.1.symm) (ending.trans same.2.symm)
      rw [accepted, last] at ended'
      exact ⟨session', before', _, after', noText,
        Work.gives_pure.mpr ⟨rfl, rfl⟩, ended', alike⟩

theorem start_without_text {text symbol : Option String}
    (started : parser.start text symbol = .ok session) :
    parser.start none symbol = .ok { session with cursor := none } := by
  unfold start at started ⊢
  rcases bind_eq_ok.mp started with ⟨name, chosen, started⟩
  rw [chosen]
  split at started
  next starting ending starts ends =>
    cases started
    simp only [bind, Except.bind, starts, ends]
    rfl
  next => cases started

/-- A text that is parsed to a value comes to that value as well if its tokens are fed by hand. -/
theorem parseByHand_yields (plain : parser.source.postLexer = none)
    (basic : parser.source.reader = .basic lexer) {number : Nat}
    (whole : parser.whole = { lexer with number }) (pure : lexer.Pure)
    (discreet : parser.reductions.Discreet) {text : String} {symbol : Option String}
    {limit : Nat} {value : Value} (enough : 4 * (text.length + 2) < limit)
    (inside : ∀ tokens, parser.Takes text symbol before tokens →
      ∀ token ∈ tokens, token.kind ≠ Token.endKind)
    (parsed : (parser.parse text symbol).Yields before value after) :
    ∃ after', (parser.parseByHand limit text symbol).Yields before value after' ∧
      after.Alike after' := by
  cases started : parser.start (some text) symbol with
  | error failure =>
      simp only [parse, started, Run.lift_error] at parsed
      exact absurd parsed Run.yields_throw
  | ok session =>
      rcases start_eq_ok started with ⟨here, _⟩
      have first : session.last? = none := by simp [Session.last?, here, Cursor.ofText]
      have bound : tokenBound session + 1 ≤ limit := by
        rw [← String.length_toList] at enough
        simpa [tokenBound, here, Cursor.ofText] using Nat.succ_le_of_lt enough
      rcases parse_runs plain started parsed (by simp) with
        ⟨steps, tokens, raw, middle, bounded, runs, reports⟩
      have inside := inside tokens ⟨session, steps, raw, middle, started, runs⟩
      cases raw with
      | error failure => exact reports.elim
      | ok value =>
          rcases reports with ⟨rfl, rfl⟩
          have source : { parser.source with reader := .basic parser.whole }.postLexer = none :=
            plain
          have reader : { parser.source with reader := .basic parser.whole }.reader =
            .basic { lexer with number } := congrArg Reader.basic whole
          rcases drain_runs basic pure reader source runs rfl before
            (Nat.le_trans bounded bound) here with
            ⟨drained, between, drains, same, fine, quiet⟩
          subst same
          have stack : { session with cursor := none }.stack = session.stack := rfl
          rcases feedInTurn_runs basic pure discreet runs rfl stack rfl rfl quiet.symm inside with
            ⟨next, between', final, after', noText, feeds, ended, alike⟩
          have last : endToken next drained.tokens.getLast? =
              Token.endOfInput (drained.tokens.getLast? <|> session.last?) := by
            simp [endToken, noText, first]
          refine ⟨after', ?_, alike⟩
          unfold parseByHand
          refine Run.yields_bind.mpr ⟨drained, between, Run.yields_work.mpr drains, ?_⟩
          rw [fine, start_without_text started]
          refine Run.yields_bind.mpr ⟨_, _, Run.yields_lift.mpr ⟨rfl, rfl⟩, ?_⟩
          refine Run.yields_bind.mpr ⟨_, _, Run.yields_work.mpr feeds, ?_⟩
          refine Run.yields_bind.mpr ⟨_, _, Run.yields_lift.mpr ⟨rfl, rfl⟩, ?_⟩
          refine Run.yields_bind.mpr ⟨(.ok value, final), after', Run.yields_work.mpr ?_,
            Run.yields_lift.mpr ⟨rfl, rfl⟩⟩
          rw [feed_endToken, last]
          exact ended

end Lalr.Parser
