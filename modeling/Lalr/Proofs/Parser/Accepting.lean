import Lalr.Proofs.Lexer.Sparing
import Lalr.Proofs.Machine.Tracking
import Lalr.Proofs.Parser.Running
import Lalr.Proofs.Parser.Stepping

/-!
# Parses that come to a value

A parse that comes to a value has pulled some tokens from its text and shifted each of
them before it has ended the input. Whatever is known of the values on the stack and of
their derivations, is preserved by each shift and each reduction, and is not affected by
the lexer, is known in the end of the value and of a derivation of all these tokens.
-/

namespace Lalr

/-- A token that is meant to end the input is never shifted. -/
theorem Table.feed_ne_shifted {σ ω ε w : Type} [DecidableEq σ] {table : Table σ}
    (effects : Effects (StateM w) σ ω ε) {kind : String} {ending : σ} (fuel : Nat) :
    ∀ (stack : Stack σ ω) (state : w),
      ((table.feed effects kind (some ending) fuel stack).run state).1.1 ≠ .shifted := by
  induction fuel with
  | zero => exact fun _ _ same => by cases same
  | succ fuel ih =>
      intro stack state same
      cases move : table.move stack.states kind with
      | lost fault =>
          rw [feed_of_lost effects move] at same
          cases same
      | rejected expected =>
          rw [feed_of_rejected effects move] at same
          cases same
      | shift target =>
          rw [feed_of_shift_end effects move rfl] at same
          cases same
      | reduce rule =>
          simp only [feed, move, StateT.run_bind] at same
          simp only [bind] at same
          split at same
          next => cases same
          next =>
            split at same
            next => cases same
            next =>
              split at same
              next => cases same
              next => exact ih _ _ same

namespace Parser

variable {parser parser' : Parser} {stream stream' : TokenStream} {last : Option Token}
  {session session' next final final' met : Session} {before between after : Workspace}
  {token : Token} {tokens tokens' : List Token} {value value' : Value}
  {known : Workspace → List Value → List Derivation → Prop} {starting : State}
  {parts : List Derivation}

/-- A run from a session that comes to a value. It takes some tokens from the text, each of which it
feeds, and then ends the input. -/
inductive Comes (parser : Parser) : TokenStream → Option Token → Session →
    Workspace → List Token →
    Value → Session → Workspace → Prop
  | ended {stream stream' : TokenStream} {last : Option Token} {session met final : Session}
      {before between after : Workspace} {value : Value}
      (pulled : (parser.pull stream session).Gives before (.ok none, stream', met) between)
      (fed : (parser.feedAs true met (Token.endOfInput last)).Gives between
        (.ok value, final) after) :
      Comes parser stream last session before [] value final after
  | fed {stream stream' : TokenStream} {last : Option Token} {session met next final : Session}
      {before between middle after : Workspace} {token : Token} {tokens : List Token}
      {answer value : Value}
      (pulled : (parser.pull stream session).Gives before (.ok (some token), stream', met) between)
      (fed : (parser.feedAs false met token).Gives between (.ok answer, next) middle)
      (rest : Comes parser stream' (some token) next middle tokens value final after) :
      Comes parser stream last session before (token :: tokens) value final after

theorem not_interrupt_ok {failure : Failure} :
    ¬(parser.interrupt failure last session).Gives before (.ok value, final) after := by
  intro gives
  exact (interrupt_reports gives before).elim

/-- A run that gives a value has come to it. -/
theorem comes_of_runWithin (fuel : Nat) : ∀ {stream : TokenStream} {last : Option Token}
    {session : Session} {before : Workspace},
    (parser.runWithin fuel stream last session).Gives before (.ok value, final) after →
      ∃ tokens, parser.Comes stream last session before tokens value final after := by
  induction fuel with
  | zero => exact fun gives => (not_interrupt_ok gives).elim
  | succ fuel ih =>
      intro stream last session before gives
      rcases Work.gives_bind.mp gives with ⟨⟨answer, stream', met⟩, between, pulled, gives⟩
      rcases answer with failure | _ | token
      · exact (not_interrupt_ok gives).elim
      · rcases Work.gives_bind.mp gives with ⟨⟨answer, next⟩, middle, fed, gives⟩
        cases answer with
        | error failure => exact (not_interrupt_ok gives).elim
        | ok result =>
            rcases Work.gives_pure.mp gives with ⟨same, rfl⟩
            cases same
            exact ⟨[], .ended pulled fed⟩
      · rcases Work.gives_bind.mp gives with ⟨⟨answer, next⟩, middle, fed, gives⟩
        cases answer with
        | error failure => exact (not_interrupt_ok gives).elim
        | ok result =>
            rcases ih gives with ⟨tokens, comes⟩
            exact ⟨token :: tokens, .fed pulled fed comes⟩

/-- Whether some tokens are those that a parse takes from its text before it comes to a value. -/
def Consumes (parser : Parser) (text : String) (start : Option String) (before : Workspace)
    (tokens : List Token) : Prop :=
  ∃ session value final after, parser.start (some text) start = .ok session ∧
    parser.Comes {} none session before tokens value final after

theorem comes_of_parse {text : String} {symbol : Option String}
    (parsed : (parser.parse text symbol).Yields before value after) :
    ∃ session tokens final, parser.start (some text) symbol = .ok session ∧
      parser.Comes {} none session before tokens value final after := by
  unfold parse at parsed
  simp only [Run.yields_bind, Run.yields_lift, Run.yields_work] at parsed
  rcases parsed with ⟨session, _, ⟨started, rfl⟩, ⟨answer, final⟩, _, ran, lifted⟩
  rcases lifted with ⟨rfl, rfl⟩
  rcases comes_of_runWithin _ ran with ⟨tokens, comes⟩
  exact ⟨session, tokens, final, started, comes⟩

/-! ## What is known in the end -/

section Tracking

variable (tracks : Tracks parser.table parser.effects known)
  (coherent : parser.table.Coherent starting)

include tracks coherent

/-- A token of the text that is fed without an end is shifted. -/
theorem feedAs_tracked
    (tracked : Tracked parser.table starting known before session.stack parts)
    (fed : (parser.feedAs false session token).Gives before (.ok value, next) after) :
    ∃ more, Tracked parser.table starting known after next.stack more ∧
      parser.table.feed (Derivation.effects token) token.kind none
        (parser.table.reductionBound session.stack.states.length)
        ⟨session.stack.states, parts⟩ =
          (.shifted, ⟨next.stack.states, more⟩) ∧
      Derivation.leavesOf more.reverse = Derivation.leavesOf parts.reverse ++ [token] := by
  have goes := tracks.fed coherent token none
    (parser.table.reductionBound session.stack.states.length) tracked
  unfold feedAs at fed
  simp only [Bool.false_eq_true, if_false] at fed
  rcases Work.gives_bind.mp fed with ⟨⟨outcome, stack⟩, between, ran, fed⟩
  rw [ran] at goes
  cases outcome with
  | shifted =>
      rcases Work.gives_pure.mp fed with ⟨same, rfl⟩
      cases same
      exact goes
  | finished result =>
      rcases goes with ⟨part, more, tracked, _, none, _⟩
      rcases tracked.path.exists_top with ⟨top, below, nonempty⟩
      simp [nonempty] at none
  | rejected expected => cases (Work.gives_pure.mp fed).1
  | failed failure => cases (Work.gives_pure.mp fed).1
  | endless => cases (Work.gives_pure.mp fed).1

/-- Where a token that ends the input gives a value, this lies on top of the stack. -/
theorem feedAs_ended
    (tracked : Tracked parser.table starting known before session.stack parts)
    (fed : (parser.feedAs true session token).Gives before (.ok value, next) after) :
    ∃ part more, Tracked parser.table starting known after next.stack (part :: more) ∧
      next.stack.values.head? = some value ∧ next.stack.states.head? = some session.ending ∧
      parser.table.feed (Derivation.effects token) token.kind (some session.ending)
        (parser.table.reductionBound session.stack.states.length)
        ⟨session.stack.states, parts⟩ =
          (.finished part, ⟨next.stack.states, part :: more⟩) ∧
      Derivation.leavesOf (part :: more).reverse = Derivation.leavesOf parts.reverse := by
  have goes := tracks.fed coherent token (some session.ending)
    (parser.table.reductionBound session.stack.states.length) tracked
  unfold feedAs at fed
  simp only [if_true] at fed
  rcases Work.gives_bind.mp fed with ⟨⟨outcome, stack⟩, between, ran, fed⟩
  rw [ran] at goes
  cases outcome with
  | finished result =>
      rcases Work.gives_pure.mp fed with ⟨same, rfl⟩
      cases same
      exact goes
  | shifted =>
      exact (Table.feed_ne_shifted (parser.effects token) _ _ _ (congrArg (·.1.1) ran)).elim
  | rejected expected => cases (Work.gives_pure.mp fed).1
  | failed failure => cases (Work.gives_pure.mp fed).1
  | endless => cases (Work.gives_pure.mp fed).1

end Tracking

/-- Pulling a token changes nothing about a session but the position in the text. -/
theorem pull_eq_with {answer : Except Failure (Option Token)}
    (gives : (parser.pull stream session).Gives before (answer, stream', met) after) :
    met = { session with cursor := met.cursor } := by
  unfold pull at gives
  split at gives
  next none =>
    rcases Work.gives_pure.mp gives with ⟨same, _⟩
    cases same
    rfl
  next cursor _ =>
    rcases Work.gives_bind.mp gives with ⟨⟨answer, stream, cursor⟩, between, _, gives⟩
    rcases Work.gives_pure.mp gives with ⟨same, _⟩
    cases same
    rfl

/-- What holds of the values on the stack of a session and of the derivations of its symbols, if the
lexer has no bearing on what is known of them. -/
structure Tracking (parser : Parser) (starting : State)
    (known : Workspace → List Value → List Derivation → Prop) : Prop where
  tracks : Tracks parser.table parser.effects known
  coherent : parser.table.Coherent starting
  pulls : ∀ {stream stream' : TokenStream} {session met : Session} {before after : Workspace}
    {answer : Except Failure (Option Token)} {values : List Value} {parts : List Derivation},
    known before values parts →
      (parser.pull stream session).Gives before (answer, stream', met) after →
        known after values parts

/-- What is known of the values on the stack is known after a token has been pulled. -/
theorem Tracking.pulled (tracking : parser.Tracking starting known)
    {answer : Except Failure (Option Token)}
    (tracked : Tracked parser.table starting known before session.stack parts)
    (gives : (parser.pull stream session).Gives before (answer, stream', met) after) :
    Tracked parser.table starting known after met.stack parts := by
  rw [pull_eq_with gives]
  exact ⟨tracked.path, tracked.valid, tracking.pulls tracked.known gives⟩

/-- What is known of the values on the stack before a run is known afterwards, when the value that
the run has come to lies on top of them. Its derivation follows from the tokens alone. -/
theorem Comes.tracked (tracking : parser.Tracking starting known)
    (comes : parser.Comes stream last session before tokens value final after) :
    ∀ {parts : List Derivation},
      Tracked parser.table starting known before session.stack parts →
      ∃ part more, Tracked parser.table starting known after final.stack (part :: more) ∧
        final.stack.values.head? = some value ∧ final.stack.states.head? = some session.ending ∧
        parser.table.feedAll Derivation.effects parser.table.reductionBound session.ending
          (Token.endOfInput (tokens.getLast? <|> last)) tokens ⟨session.stack.states, parts⟩ =
            (.finished part, ⟨final.stack.states, part :: more⟩) ∧
        Derivation.leavesOf (part :: more).reverse = Derivation.leavesOf
          parts.reverse ++ tokens := by
  induction comes with
  | @ended _ _ last session met _ _ _ _ _ pulled fed =>
      intro parts tracked
      have same := pull_eq_with pulled
      rcases feedAs_ended tracking.tracks tracking.coherent
        (tracking.pulled tracked pulled) fed with
        ⟨part, more, tracked, top, ended, built, leaves⟩
      rw [same] at ended built
      exact ⟨part, more, tracked, top, ended, built, by simpa using leaves⟩
  | @fed _ _ _ session met next final _ _ _ _ token tokens _ _ pulled fed _ ih =>
      intro parts tracked
      have same := pull_eq_with pulled
      rcases feedAs_tracked tracking.tracks tracking.coherent
        (tracking.pulled tracked pulled) fed with
        ⟨more, tracked, shifted, leaves⟩
      rcases ih tracked with ⟨part, rest, tracked, top, ended, built, leaves'⟩
      have ending : next.ending = session.ending := by
        rw [feedAs_eq fed, same]
      rw [same] at shifted
      rw [ending] at ended built
      refine ⟨part, rest, tracked, top, ended, ?_, ?_⟩
      · have last : (token :: tokens).getLast? = (tokens.getLast? <|> some token) := by
          rw [List.getLast?_cons]
          cases tokens.getLast? <;> rfl
        simp only [Table.feedAll, shifted]
        rw [last, ← built]
        cases tokens.getLast? <;> rfl
      · rw [leaves', leaves]
        simp

/-! ## Parses that go side by side -/

/-- Whether two parsers have the same table and find the same tokens where they are at the same
place. -/
structure SideBySide (parser parser' : Parser) : Prop where
  table : parser'.table = parser.table
  pull : ∀ {standing : Option Standing} {stream stream' : TokenStream} {cursor cursor' : Cursor}
    {found : Option Token} {before after : Workspace},
    (parser.source.pull standing stream cursor).Gives before (.ok found, stream', cursor') after →
      ∀ before', ∃ after', (parser'.source.pull standing stream cursor).Gives before'
        (.ok found, stream', cursor') after'

/-- Whether two sessions are at the same place of a parse. -/
structure Level (session session' : Session) : Prop where
  states : session'.stack.states = session.stack.states
  cursor : session'.cursor = session.cursor
  ending : session'.ending = session.ending

/-- Parsers side by side pull the same token, and are at the same place afterwards. -/
theorem SideBySide.pulled (beside : parser.SideBySide parser') (level : Level session session')
    {found found' : Option Token} {stream'' : TokenStream} {met' : Session}
    {before' after' : Workspace}
    (gives : (parser.pull stream session).Gives before (.ok found, stream', met) after)
    (gives' : (parser'.pull stream session').Gives before' (.ok found', stream'', met') after') :
    found' = found ∧ stream'' = stream' ∧ Level met met' := by
  have standing : session'.standing? = session.standing? := by
    simp [Session.standing?, level.states]
  unfold Parser.pull at gives gives'
  rw [level.cursor, standing] at gives'
  cases here : session.cursor with
  | none =>
      rw [here] at gives
      cases (Work.gives_pure.mp gives).1
  | some cursor =>
      rw [here] at gives gives'
      rcases Work.gives_bind.mp gives with ⟨⟨answer, _, next⟩, between, pulled, gives⟩
      rcases Work.gives_bind.mp gives' with ⟨⟨answer', _, next'⟩, between', pulled', gives'⟩
      rcases Work.gives_pure.mp gives with ⟨same, rfl⟩
      rcases Work.gives_pure.mp gives' with ⟨same', rfl⟩
      cases same
      cases same'
      rcases beside.pull pulled before' with ⟨_, given⟩
      rcases given.unique pulled' with ⟨same, _⟩
      cases same
      exact ⟨rfl, rfl, level.states, rfl, level.ending⟩

/-- Parsers side by side take the same tokens from a text. -/
theorem Comes.together {known' : Workspace → List Value → List Derivation → Prop}
    (beside : parser.SideBySide parser') (tracking : parser.Tracking starting known)
    (tracking' : parser'.Tracking starting known')
    (comes : parser.Comes stream last session before tokens value final after) :
    ∀ {session' final' : Session} {before' after' : Workspace}
      {tokens' : List Token} {value' : Value} {parts : List Derivation}, Level session session' →
      parser'.Comes stream last session' before' tokens' value' final' after' →
      Tracked parser.table starting known before session.stack parts →
      Tracked parser'.table starting known' before' session'.stack parts → tokens' = tokens := by
  induction comes with
  | ended pulled fed =>
      intro session' final' before' after' tokens' value' parts level comes' _ _
      cases comes' with
      | ended => rfl
      | fed pulled' => cases (beside.pulled level pulled pulled').1
  | fed pulled fed _ ih =>
      intro session' final' before' after' tokens' value' parts level comes' tracked tracked'
      cases comes' with
      | ended pulled' => cases (beside.pulled level pulled pulled').1
      | fed pulled' fed' rest' =>
          rcases beside.pulled level pulled pulled' with ⟨same, rfl, level⟩
          rcases Option.some.inj same with rfl
          rcases feedAs_tracked tracking.tracks tracking.coherent
            (tracking.pulled tracked pulled) fed with
            ⟨more, tracked, shifted, _⟩
          rcases feedAs_tracked tracking'.tracks tracking'.coherent
            (tracking'.pulled tracked' pulled') fed' with
            ⟨more', tracked', shifted', _⟩
          rw [beside.table, level.states, shifted] at shifted'
          have moved := (Prod.mk.inj shifted').2
          rcases Stack.mk.inj moved with ⟨states, rfl⟩
          refine congrArg _ (ih ⟨states.symm, ?_, ?_⟩ rest' tracked tracked')
          · rw [feedAs_eq fed, feedAs_eq fed']
            exact level.cursor
          · rw [feedAs_eq fed, feedAs_eq fed']
            exact level.ending

end Parser

end Lalr
