import Lalr.Parser.Session
import Lalr.Proofs.Lexer.Reading

/-!
# Runs of a session

To run a session is to fetch a token, to feed it and to go on, until there is no
token left or something is wrong. This file says so without regard to how often the
text is gone to, and of what the parser remembers for messages only.
-/

namespace Lalr

/-- Two failures that blame the same thing. They may differ in what they remember of the parse that
they have gone through. -/
def Failure.SameBlame : Failure → Failure → Prop
  | .stuckToken stuck, .stuckToken stuck' =>
    stuck.offender = stuck'.offender ∧ stuck.expected = stuck'.expected ∧
      stuck.atEnd = stuck'.atEnd ∧ stuck.standing = stuck'.standing
  | failure, failure' => failure = failure'

namespace Failure.SameBlame

variable {failure failure' failure'' : Failure}

theorem refl (failure : Failure) : failure.SameBlame failure := by
  cases failure <;> simp [SameBlame]

theorem symm (same : failure.SameBlame failure') : failure'.SameBlame failure := by
  cases failure <;> cases failure' <;> simp_all [SameBlame]

theorem trans (same : failure.SameBlame failure') (same' : failure'.SameBlame failure'') :
    failure.SameBlame failure'' := by
  cases failure <;> cases failure' <;> cases failure'' <;> simp_all [SameBlame]

theorem kind (same : failure.SameBlame failure') : failure.kind? = failure'.kind? := by
  cases failure <;> cases failure' <;> simp_all [SameBlame, Failure.kind?]

theorem position (same : failure.SameBlame failure') : failure.position? = failure'.position? := by
  cases failure <;> cases failure' <;> simp_all [SameBlame, Failure.position?]

theorem passing (failure : Failure) (standpoint : Standpoint) (last : Option Token) :
    (failure.passing standpoint last).SameBlame failure := by
  cases failure <;> simp [Failure.passing, SameBlame]

end Failure.SameBlame

namespace Session

/-- The last token of the text that has been found. -/
def last? (session : Session) : Option Token := session.cursor.bind Cursor.last

/-- Whether one session goes on where another is: with the same text, if it has one, and frozen if
the other is. -/
structure Continues (session next : Session) : Prop where
  frozen : next.frozen = session.frozen
  text : next.cursor.map Cursor.text = session.cursor.map Cursor.text

namespace Continues

variable {session next final : Session}

theorem refl (session : Session) : session.Continues session := ⟨rfl, rfl⟩

theorem trans (first : session.Continues next) (second : next.Continues final) :
    session.Continues final :=
  ⟨second.frozen.trans first.frozen, second.text.trans first.text⟩

theorem tokenBound (continues : session.Continues next) :
    Parser.tokenBound next = Parser.tokenBound session := by
  have text := continues.text
  unfold Parser.tokenBound
  cases cursor : session.cursor <;> cases cursor' : next.cursor <;> simp_all

theorem cursor (continues : session.Continues next) (hasText : session.cursor.isSome) :
    next.cursor.isSome := by
  have text := continues.text
  cases cursor : session.cursor <;> cases cursor' : next.cursor <;> simp_all

end Continues

end Session

namespace Parser

variable {parser : Parser} {session met next final : Session}
  {before between middle after : Workspace} {token : Token} {found : Option Token}

/-- The next token of a session's text, with no post-lexer in between. -/
def fetch (parser : Parser) (session : Session) :
    Work (Except Failure (Option Token) × Session) :=
  match session.cursor with
  | none => return (.error (.refused .lexWithoutText), session)
  | some cursor =>
    (fun (answer, cursor) => (answer, { session with cursor := some cursor })) <$>
      parser.source.reader.next session.standing? cursor

theorem pull_eq (plain : parser.source.postLexer = none) (stream : TokenStream)
    (session : Session) :
    parser.pull stream session =
      (fun (answer, session) => (answer, stream, session)) <$> parser.fetch session := by
  unfold pull fetch TokenSource.pull
  rw [plain]
  cases session.cursor with
  | none => simp
  | some cursor => simp

theorem fetch_eq_ok (gives : (parser.fetch session).Gives before (.ok found, met) after) :
    ∃ cursor next, session.cursor = some cursor ∧ met = { session with cursor := some next } ∧
      (parser.source.reader.next session.standing? cursor).Gives before
        (.ok found, next) after := by
  unfold fetch at gives
  cases here : session.cursor with
  | none => simp [here] at gives
  | some cursor =>
      simp only [here, Work.gives_map, Prod.mk.injEq] at gives
      rcases gives with ⟨⟨answer, next⟩, read, rfl, rfl⟩
      exact ⟨cursor, next, rfl, rfl, read⟩

theorem fetch_continues (gives : (parser.fetch session).Gives before (.ok found, met) after) :
    session.Continues met := by
  rcases fetch_eq_ok gives with ⟨cursor, next, here, rfl, read⟩
  exact ⟨rfl, by simp [here, (Reader.next_finds read).1]⟩

theorem last?_of_fetch (gives : (parser.fetch session).Gives before (.ok found, met) after) :
    met.last? = (found <|> session.last?) := by
  rcases fetch_eq_ok gives with ⟨cursor, next, here, rfl, read⟩
  simpa [Session.last?, here] using (Reader.next_finds read).last

/-- Where there was no token there is none when it is asked for again, and nothing happens. -/
theorem fetch_again (gives : (parser.fetch session).Gives before (.ok none, met) after) :
    parser.fetch met = pure (.ok none, met) := by
  rcases fetch_eq_ok gives with ⟨cursor, next, _, rfl, read⟩
  simp only [fetch]
  rw [show Session.standing? { session with cursor := some next } = session.standing? from rfl,
    Reader.next_again read]
  rfl

theorem fetch_result (gives : (parser.fetch session).Gives before (found', met) after)
    (result : Value) :
    (parser.fetch { session with result }).Gives before (found', { met with result }) after := by
  unfold fetch at gives ⊢
  cases here : session.cursor with
  | none =>
      simp only [here, Work.gives_pure, Prod.mk.injEq] at gives ⊢
      rcases gives with ⟨⟨answer, rfl⟩, same⟩
      exact ⟨⟨answer, by rw [here]⟩, same⟩
  | some cursor =>
      simp only [here, Work.gives_map, Prod.mk.injEq] at gives ⊢
      rcases gives with ⟨⟨answer, next⟩, read, rfl, rfl⟩
      exact ⟨(answer, next), read, rfl, rfl⟩

/-- A token changes nothing but the stack of a session. -/
theorem feedAs_eq {isEnd : Bool} {answer : Except Failure Value}
    (gives : (parser.feedAs isEnd session token).Gives before (answer, next) after) :
    next = { session with stack := next.stack } := by
  unfold feedAs at gives
  simp only [Work.gives_bind] at gives
  rcases gives with ⟨⟨outcome, stack⟩, between, _, gives⟩
  cases outcome <;> simp only [Work.gives_pure, Prod.mk.injEq] at gives <;>
    rcases gives with ⟨⟨_, rfl⟩, _⟩ <;> rfl

theorem feedAs_continues {isEnd : Bool} {answer : Except Failure Value}
    (gives : (parser.feedAs isEnd session token).Gives before (answer, next) after) :
    session.Continues next := by
  rw [feedAs_eq gives]
  exact ⟨rfl, rfl⟩

theorem last?_of_feedAs {isEnd : Bool} {answer : Except Failure Value}
    (gives : (parser.feedAs isEnd session token).Gives before (answer, next) after) :
    next.last? = session.last? := by
  rw [feedAs_eq gives]
  rfl

/-- What is done about a token depends on nothing but the stack of a session and the state that ends
it. -/
theorem feedAs_same {isEnd : Bool} {answer : Except Failure Value} {session' : Session}
    (gives : (parser.feedAs isEnd session token).Gives before (answer, next) after)
    (stack : session'.stack = session.stack) (ending : session'.ending = session.ending) :
    (parser.feedAs isEnd session' token).Gives before
      (answer, { session' with stack := next.stack })
      after := by
  unfold feedAs at gives ⊢
  rw [stack, ending]
  simp only [Work.gives_bind] at gives ⊢
  rcases gives with ⟨⟨outcome, stack⟩, between, fed, gives⟩
  refine ⟨(outcome, stack), between, fed, ?_⟩
  cases outcome <;> simp only [Work.gives_pure, Prod.mk.injEq] at gives ⊢ <;>
    rcases gives with ⟨⟨rfl, rfl⟩, rfl⟩ <;> exact ⟨⟨rfl, rfl⟩, rfl⟩

theorem feedAs_result {isEnd : Bool} {answer : Except Failure Value}
    (gives : (parser.feedAs isEnd session token).Gives before (answer, next) after)
    (result : Value) :
    (parser.feedAs isEnd { session with result } token).Gives before (answer, { next with result })
      after := by
  have same : (parser.feedAs isEnd { session with result } token).Gives before
      (answer, { session with result, stack := next.stack }) after := feedAs_same gives rfl rfl
  rw [feedAs_eq gives]
  exact same

theorem feed_eq (session : Session) (inside : token.kind ≠ Token.endKind) :
    parser.feed session token = parser.feedAs false session token := by
  rw [feed, beq_false_of_ne inside]

theorem feed_endToken (session : Session) (last : Option Token) :
    parser.feed session (endToken session last) =
      parser.feedAs true session (endToken session last) := by
  have ends : (endToken session last).kind = Token.endKind := by
    unfold endToken
    cases last <|> session.cursor.bind Cursor.last <;> rfl
  rw [feed, ends, beq_self_eq_true]

/-- What a run from a session does: it takes some tokens from the text, each of which it feeds, and
comes to an answer. It goes to the text as often as it has steps. -/
inductive Runs (parser : Parser) : Nat → Session → Workspace → List Token →
    Except Failure Value → Workspace → Prop
  | unread {session met before after failure}
      (fetched : (parser.fetch session).Gives before (.error failure, met) after) :
      Runs parser 1 session before [] (.error failure) after
  | refused {session met stopped before between after token failure}
      (fetched : (parser.fetch session).Gives before (.ok (some token), met) between)
      (fed : (parser.feedAs false met token).Gives between (.error failure, stopped) after) :
      Runs parser 1 session before [token] (.error failure) after
  | fed {steps session met next before between middle after token value tokens answer}
      (fetched : (parser.fetch session).Gives before (.ok (some token), met) between)
      (fed : (parser.feedAs false met token).Gives between (.ok value, next) middle)
      (rest : Runs parser steps next middle tokens answer after) :
      Runs parser (steps + 1) session before (token :: tokens) answer after
  | finished {session met final before between after answer}
      (fetched : (parser.fetch session).Gives before (.ok none, met) between)
      (ended : (parser.feedAs true met (endToken met none)).Gives between (answer, final) after) :
      Runs parser 1 session before [] answer after

/-- Whether an answer reports what a run has come to. -/
def Reports (raw : Except Failure Value) (middle : Workspace) (answer : Except Failure Value)
    (after : Workspace) : Prop :=
  match raw, answer with
  | .ok value, .ok value' => value = value' ∧ middle = after
  | .error failure, .error failure' => failure'.SameBlame failure
  | _, _ => False

theorem Reports.refl (answer : Except Failure Value) (after : Workspace) :
    Reports answer after answer after := by
  cases answer with
  | error failure => exact Failure.SameBlame.refl failure
  | ok value => exact ⟨rfl, rfl⟩

/-- What reports the same run is a report of one another. -/
theorem Reports.together {raw answer answer' : Except Failure Value}
    {middle after after' : Workspace} (reports : Reports raw middle answer after)
    (reports' : Reports raw middle answer' after') :
    Reports answer after answer' after' := by
  cases raw with
  | error failure =>
      cases answer with
      | ok value => exact reports.elim
      | error failure =>
          cases answer' with
          | ok value => exact reports'.elim
          | error failure' =>
              exact Failure.SameBlame.trans reports' (Failure.SameBlame.symm reports)
  | ok value =>
      cases answer with
      | error failure => exact reports.elim
      | ok value =>
          cases answer' with
          | error failure => exact reports'.elim
          | ok value' =>
              exact ⟨reports.1.symm.trans reports'.1, reports.2.symm.trans reports'.2⟩

theorem interrupt_reports {failure : Failure} {last : Option Token} {answer : Except Failure Value}
    (gives : (parser.interrupt failure last session).Gives before (answer, final) after)
    (middle : Workspace) : Reports (.error failure) middle answer after := by
  unfold interrupt at gives
  split at gives
  · simp only [Work.gives_bind, Work.gives_pure, Prod.mk.injEq] at gives
    rcases gives with ⟨_, _, _, ⟨rfl, _⟩, _⟩
    exact .passing ..
  · simp only [Work.gives_pure, Prod.mk.injEq] at gives
    rcases gives with ⟨⟨rfl, _⟩, _⟩
    exact .passing ..

theorem runWithin_succ (plain : parser.source.postLexer = none) (fuel : Nat) (stream : TokenStream)
    (last : Option Token) (session : Session) :
    parser.runWithin (fuel + 1) stream last session =
      parser.fetch session >>= fun (found, met) =>
        match found with
        | .error failure => parser.interrupt failure last met
        | .ok (some token) => do
          match ← parser.feedAs false met token with
          | (.ok _, next) => parser.runWithin fuel stream (some token) next
          | (.error failure, next) => parser.interrupt failure (some token) next
        | .ok none => (do
          match ← parser.feedAs true met (Token.endOfInput last) with
          | (.ok value, next) => return (.ok value, next)
          | (.error failure, next) => parser.interrupt failure last next) := by
  rw [runWithin, pull_eq plain, map_eq_pure_bind, bind_assoc]
  congr
  funext (found, met)
  rcases found with failure | _ | token <;> rfl

/-- A run that does not give up has followed what there is to do. -/
theorem runWithin_runs (plain : parser.source.postLexer = none)
    {stream : TokenStream} {fuel : Nat} :
    ∀ {session final : Session} {before after : Workspace} {answer : Except Failure Value},
      (parser.runWithin fuel stream session.last? session).Gives before (answer, final) after →
      answer ≠ .error (.fault .brokenPromise) →
      ∃ steps tokens raw middle, steps ≤ fuel ∧
        parser.Runs steps session before tokens raw middle ∧
        Reports raw middle answer after := by
  induction fuel with
  | zero =>
      intro session final before after answer gives goesOn
      have reports := interrupt_reports gives before
      cases answer with
      | ok value => exact reports.elim
      | error failure =>
          have same : failure = .fault .brokenPromise := by
            cases failure <;> simp [Reports, Failure.SameBlame] at reports
            rw [reports]
          exact absurd (congrArg Except.error same) goesOn
  | succ fuel ih =>
      intro session final before after answer gives goesOn
      rw [runWithin_succ plain, Work.gives_bind] at gives
      rcases gives with ⟨⟨found, met⟩, between, fetched, gives⟩
      rcases found with failure | _ | token
      · exact ⟨1, [], _, _, by omega, .unread fetched, interrupt_reports gives _⟩
      · have last : Token.endOfInput session.last? = endToken met none :=
          congrArg Token.endOfInput (last?_of_fetch fetched).symm
        dsimp only at gives
        rw [last, Work.gives_bind] at gives
        rcases gives with ⟨⟨raw, stopped⟩, middle, ended, gives⟩
        refine ⟨1, [], raw, middle, by omega, .finished fetched ended, ?_⟩
        cases raw with
        | error failure => exact interrupt_reports gives _
        | ok value =>
            simp only [Work.gives_pure, Prod.mk.injEq] at gives
            rcases gives with ⟨⟨rfl, _⟩, rfl⟩
            exact .refl ..
      · dsimp only at gives
        rw [Work.gives_bind] at gives
        rcases gives with ⟨⟨raw, next⟩, middle, fed, gives⟩
        cases raw with
        | error failure =>
            exact ⟨1, [token], _, _, by omega, .refused fetched fed, interrupt_reports gives _⟩
        | ok value =>
            have last : some token = next.last? := by
              rw [last?_of_feedAs fed, last?_of_fetch fetched]
              rfl
            dsimp only at gives
            rw [last] at gives
            rcases ih gives goesOn with ⟨steps, tokens, raw, final, bound, runs, reports⟩
            exact ⟨steps + 1, token :: tokens, raw, final, by omega,
              .fed fetched fed runs, reports⟩

/-- With fuel for all of its steps a run reports what there is to do. -/
theorem runWithin_reports (plain : parser.source.postLexer = none) {stream : TokenStream}
    {steps : Nat} {tokens : List Token} {raw : Except Failure Value}
    (runs : parser.Runs steps session before tokens raw middle) :
    ∀ {fuel : Nat} {answer : Except Failure Value}, steps ≤ fuel →
      (parser.runWithin fuel stream session.last? session).Gives before (answer, final) after →
      Reports raw middle answer after := by
  induction runs with
  | unread fetched =>
      intro fuel answer enough gives
      rcases Nat.exists_eq_add_of_le' enough with ⟨fuel, rfl⟩
      rw [runWithin_succ plain, Work.gives_bind] at gives
      rcases gives with ⟨_, _, fetched', gives⟩
      rcases fetched.unique fetched' with ⟨rfl, rfl⟩
      exact interrupt_reports gives _
  | refused fetched fed =>
      intro fuel answer enough gives
      rcases Nat.exists_eq_add_of_le' enough with ⟨fuel, rfl⟩
      rw [runWithin_succ plain, Work.gives_bind] at gives
      rcases gives with ⟨_, _, fetched', gives⟩
      rcases fetched.unique fetched' with ⟨rfl, rfl⟩
      dsimp only at gives
      rw [Work.gives_bind] at gives
      rcases gives with ⟨_, _, fed', gives⟩
      rcases fed.unique fed' with ⟨rfl, rfl⟩
      exact interrupt_reports gives _
  | @fed _ session met next _ _ _ _ token _ _ _ fetched fed rest ih =>
      intro fuel answer enough gives
      rcases Nat.exists_eq_add_of_le' (Nat.le_of_add_left_le enough) with ⟨fuel, rfl⟩
      rw [runWithin_succ plain, Work.gives_bind] at gives
      rcases gives with ⟨_, _, fetched', gives⟩
      rcases fetched.unique fetched' with ⟨rfl, rfl⟩
      dsimp only at gives
      rw [Work.gives_bind] at gives
      rcases gives with ⟨_, _, fed', gives⟩
      rcases fed.unique fed' with ⟨rfl, rfl⟩
      have last : some token = next.last? := by
        rw [last?_of_feedAs fed, last?_of_fetch fetched]
        rfl
      dsimp only at gives
      rw [last] at gives
      exact ih (by omega) gives
  | @finished session met _ _ _ _ raw fetched ended =>
      intro fuel answer enough gives
      rcases Nat.exists_eq_add_of_le' enough with ⟨fuel, rfl⟩
      have last : Token.endOfInput session.last? = endToken met none :=
        congrArg Token.endOfInput (last?_of_fetch fetched).symm
      rw [runWithin_succ plain, Work.gives_bind] at gives
      rcases gives with ⟨_, _, fetched', gives⟩
      rcases fetched.unique fetched' with ⟨rfl, rfl⟩
      dsimp only at gives
      rw [last, Work.gives_bind] at gives
      rcases gives with ⟨_, _, ended', gives⟩
      rcases ended.unique ended' with ⟨rfl, rfl⟩
      cases raw with
      | error failure => exact interrupt_reports gives _
      | ok value =>
          simp only [Work.gives_pure, Prod.mk.injEq] at gives
          rcases gives with ⟨⟨rfl, _⟩, rfl⟩
          exact .refl ..

end Parser

end Lalr
