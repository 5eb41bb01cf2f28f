import Lalr.Proofs.Forest.Ownership
import Lalr.Proofs.Lexer.Sparing
import Lalr.Proofs.Parser.Acceptance
import Lalr.Proofs.Parser.Coupling

/-!
# Several sessions of one parser

Sessions of one parser that come from one another share a forest. This file says what
can be done to them, and shows of each deed what it changes: a session that changes
goes on with values in sequences that it had or that are new, and all that is got from
a session otherwise has values in new sequences only.
-/

namespace Lalr

/-- What a session is fed with: a token, or one that ends the input after some token. -/
inductive Feed where
  | token (token : Token)
  | ending (last : Option Token)

/-- What can be done to a session. -/
inductive Deed where
  | feed (feed : Feed)
  | exhaust
  | accepts
  | copy
  | freeze
  | thaw

/-- The token that a session is fed with. -/
def Feed.tokenFor (feed : Feed) (session : Session) : Token :=
  match feed with
  | .token given => given
  | .ending last => Parser.endToken session last

namespace Parser

/-- Does something to a session. What comes out is an answer, the session, and the session that has
been got from it, if any. A frozen session stays as it is when it is fed. -/
def act (parser : Parser) (deed : Deed) (session : Session) :
    Work (Except Failure Value × Session × Option Session) := do
  match deed with
  | .feed feed =>
    if session.frozen then
      match ← parser.feedFrozen session (feed.tokenFor session) with
      | .ok next => return (.ok next.result, session, some next)
      | .error failure => return (.error failure, session, none)
    else
      let (answer, next) ← parser.feed session (feed.tokenFor session)
      return (answer, next, none)
  | .exhaust =>
    if session.frozen then
      match ← parser.exhaustFrozen session with
      | .ok next => return (.ok .nothing, session, some next)
      | .error failure => return (.error failure, session, none)
    else
      let (answer, next) ← parser.exhaust session
      return (answer.map fun _ => .nothing, next, none)
  | .accepts =>
    let answer ← parser.accepts session.standpoint
    return (answer.map fun _ => .nothing, session, none)
  | .copy => return (.ok .nothing, session, some (← session.copy))
  | .freeze => return (.ok .nothing, session, some (← session.freeze))
  | .thaw => return (.ok .nothing, session, some (← session.thaw))

/-- Does something to one of several sessions. A session that is got from it comes last. -/
def actAt (parser : Parser) (index : Nat) (deed : Deed) (sessions : List Session) :
    Work (List Session) := do
  match sessions[index]? with
  | none => return sessions
  | some session =>
    let (_, next, obtained) ← parser.act deed session
    return sessions.set index next ++ obtained.toList

end Parser

/-- Whether two sessions are the same but for their values. -/
structure Session.Beside (session session' : Session) : Prop where
  states : session.stack.states = session'.stack.states
  starting : session.starting = session'.starting
  ending : session.ending = session'.ending
  cursor : session.cursor = session'.cursor
  frozen : session.frozen = session'.frozen

namespace Session.Beside

theorem refl (session : Session) : session.Beside session := ⟨rfl, rfl, rfl, rfl, rfl⟩

theorem tokenFor {session session' : Session} (beside : session.Beside session') (feed : Feed) :
    feed.tokenFor session = feed.tokenFor session' := by
  cases feed with
  | token given => rfl
  | ending last => simp only [Feed.tokenFor, Parser.endToken, beside.cursor]

end Session.Beside

/-- What a deed does to two sessions of two forests: they go on with what they own, or nothing that
was there is changed, and what is got from them has values of its own. -/
inductive Acted (likeness : ValueLikeness) (forests later : Forest × Forest)
    (own : List (SequenceId × SequenceId)) (session session' : Session) :
    Session → Option Session → Session → Option Session → Prop
  | itself {next next' : Session} (changes : session.frozen = false)
      (beside : next.Beside next')
      (owned : likeness.Owned forests later own next.stack.values next'.stack.values) :
      Acted likeness forests later own session session' next none next' none
  | aside (stays : likeness.Stays forests later []) :
      Acted likeness forests later own session session' session none session' none
  | obtained {other other' : Session} (beside : other.Beside other')
      (owned : likeness.Owned forests later [] other.stack.values other'.stack.values) :
      Acted likeness forests later own session session' session (some other) session' (some other')


section Copies

variable {likeness : ValueLikeness} {session session' copied copied' : Session}
  {before before' after after' : Workspace} {used : List (SequenceId × SequenceId)}

/-- A copy of a session differs from it in its values and its result only, and has some states. -/
theorem Session.copy_gives (gives : session.copy.Gives before copied after) :
    copied = { session with
      stack := {
        states := if session.stack.states.isEmpty then [session.starting]
          else session.stack.states
        values := (before.forest.deepCopies session.stack.values).1 }
      result := .nothing } ∧
    after = { before with forest := (before.forest.deepCopies session.stack.values).2 } := by
  rcases Prod.mk.inj gives with ⟨same, rest⟩
  exact ⟨same.symm, rest.symm⟩

/-- Copies of sessions with alike values have alike values of their own. -/
theorem Session.copy_alike (beside : session.Beside session')
    (alike : likeness.AllAlike (forestsOf before before') session.stack.values
      session'.stack.values used) (apart : used.Pairwise Separate)
    (copies : session.copy.Gives before copied after)
    (copies' : session'.copy.Gives before' copied' after') :
    copied.Beside copied' ∧ likeness.Owned (forestsOf before before') (forestsOf after after') []
      copied.stack.values copied'.stack.values := by
  rcases copy_gives copies with ⟨rfl, rfl⟩
  rcases copy_gives copies' with ⟨rfl, rfl⟩
  rcases beside with ⟨states, starting, ending, cursor, frozen⟩
  exact ⟨⟨by simp only [states, starting], starting, ending, cursor, frozen⟩,
    .deepCopies alike apart⟩

end Copies


namespace Parser

variable {parser : Parser} {session session' next next' : Session}
  {before before' after after' : Workspace}

/-- To feed a frozen session is to feed a copy of it. -/
theorem feedFrozen_gives {token : Token} {answer : Except Failure Session}
    (gives : (parser.feedFrozen session token).Gives before answer after) :
    ∃ copied between result fed, session.copy.Gives before copied between ∧
      (parser.feed copied token).Gives between (result, fed) after ∧
      answer = result.map fun value => { fed with result := value } := by
  unfold feedFrozen at gives
  rcases Work.gives_bind.mp gives with ⟨copied, between, copies, gives⟩
  rcases Work.gives_bind.mp gives with ⟨⟨result, fed⟩, _, feeds, gives⟩
  cases result with
  | ok value =>
      rcases Work.gives_pure.mp gives with ⟨rfl, rfl⟩
      exact ⟨copied, between, _, fed, copies, feeds, rfl⟩
  | error failure =>
      rcases Work.gives_pure.mp gives with ⟨rfl, rfl⟩
      exact ⟨copied, between, _, fed, copies, feeds, rfl⟩

section Likeness

variable {likeness : ValueLikeness} {growth : Growth} {rules : List Rule}
  {used : List (SequenceId × SequenceId)} {obtained obtained' : Option Session}
  {answer answer' : Except Failure Value} 

/-- Sessions with alike values that are fed alike answer alike, and go on with alike values. -/
theorem act_feed (builds : parser.reductions.Builds growth rules)
    (settle : Reductions.Settle likeness growth rules)
    (tokens : ∀ token, likeness.token token token) (beside : session.Beside session')
    (alike : likeness.AllAlike (forestsOf before before') session.stack.values
      session'.stack.values used) (apart : used.Pairwise Separate) {feed : Feed}
    (gives : (parser.act (.feed feed) session).Gives before (answer, next, obtained) after)
    (gives' : (parser.act (.feed feed) session').Gives before' (answer', next', obtained') after') :
    AnswersAlike likeness (forestsOf after after') (feed.tokenFor session)
        (feed.tokenFor session) answer answer' ∧
      Acted likeness (forestsOf before before') (forestsOf after after') used session session' next
        obtained next' obtained' := by
  simp only [act, ← beside.frozen, ← beside.tokenFor] at gives gives'
  cases frozen : session.frozen with
  | false =>
      simp only [frozen, Bool.false_eq_true, if_false, Work.gives_bind,
        Work.gives_pure] at gives gives'
      rcases gives with ⟨⟨result, fed⟩, _, feeds, same, rfl⟩
      rcases gives' with ⟨⟨result', fed'⟩, _, feeds', same', rfl⟩
      have same : result = answer ∧ fed = next ∧ none = obtained := by simpa using same
      rcases same with ⟨rfl, rfl, rfl⟩
      have same : result' = answer' ∧ fed' = next' ∧ none = obtained' := by simpa using same'
      rcases same with ⟨rfl, rfl, rfl⟩
      have started : Session.Alike likeness (forestsOf before before') used
          (forestsOf before before') session session' :=
        ⟨beside.states, beside.ending, ⟨used, alike, apart, fun _ => .inl⟩, .refl _ _⟩
      rcases feedAs_alike builds settle rfl rfl (tokens _) rfl started feeds feeds' with
        ⟨answers, onward⟩
      refine ⟨answers, .itself frozen ?_ onward.values⟩
      have same := feedAs_eq feeds
      have same' := feedAs_eq feeds'
      rw [same, same']
      exact ⟨onward.states, beside.starting, beside.ending, beside.cursor, beside.frozen⟩
  | true =>
      simp only [frozen, if_true, Work.gives_bind] at gives gives'
      rcases gives with ⟨_, _, feeds, gives⟩
      rcases gives' with ⟨_, _, feeds', gives'⟩
      rcases feedFrozen_gives feeds with ⟨copied, between, result, fed, copies, fed_copy, rfl⟩
      rcases feedFrozen_gives feeds' with
        ⟨copied', between', result', fed', copies', fed_copy', rfl⟩
      rcases Session.copy_alike beside alike apart copies copies' with ⟨beside, owned⟩
      have started : Session.Alike likeness (forestsOf before before') []
          (forestsOf between between') copied copied' := ⟨beside.states, beside.ending, owned⟩
      rcases feedAs_alike builds settle rfl rfl (tokens _) rfl started fed_copy fed_copy' with
        ⟨answers, onward⟩
      have same := feedAs_eq fed_copy
      have same' := feedAs_eq fed_copy'
      cases result <;> cases result' <;> try exact answers.elim
      case error.error =>
        rcases Work.gives_pure.mp gives with ⟨same, rfl⟩
        rcases Work.gives_pure.mp gives' with ⟨same', rfl⟩
        cases same
        cases same'
        exact ⟨answers, .aside onward.values.stays⟩
      case ok.ok =>
        rcases Work.gives_pure.mp gives with ⟨given, rfl⟩
        rcases Work.gives_pure.mp gives' with ⟨given', rfl⟩
        cases given
        cases given'
        refine ⟨answers, .obtained ?_ onward.values⟩
        rw [same, same']
        exact ⟨onward.states, beside.starting, beside.ending, beside.cursor, beside.frozen⟩

/-- Feeding a session does not thaw or freeze it, and gives another one only if it is frozen. -/
theorem frozen_of_act_feed {feed : Feed}
    (gives : (parser.act (.feed feed) session).Gives before (answer, next, obtained) after) :
    (obtained.getD next).frozen = session.frozen ∧
      (session.frozen = false → obtained = none) := by
  simp only [act] at gives
  cases frozen : session.frozen with
  | false =>
      simp only [frozen, Bool.false_eq_true, if_false, Work.gives_bind, Work.gives_pure] at gives
      rcases gives with ⟨⟨result, fed⟩, _, feeds, same, rfl⟩
      cases same
      refine ⟨?_, fun _ => rfl⟩
      rw [Option.getD_none, feedAs_eq feeds]
      exact frozen
  | true =>
      simp only [frozen, if_true, Work.gives_bind] at gives
      rcases gives with ⟨_, _, feeds, gives⟩
      rcases feedFrozen_gives feeds with ⟨copied, between, result, fed, copies, fed_copy, rfl⟩
      refine ⟨?_, by simp⟩
      cases result with
      | error failure =>
          rcases Work.gives_pure.mp gives with ⟨same, rfl⟩
          cases same
          exact frozen
      | ok value =>
          rcases Work.gives_pure.mp gives with ⟨same, rfl⟩
          cases same
          rw [Option.getD_some, feedAs_eq fed_copy, (Session.copy_gives copies).1]
          exact frozen

/-- Pulling a token changes the forest in no other ways than its source does. -/
theorem pull_confined {allowed : Forest → Forest → Prop} [IsPreorder Forest allowed]
    (confined : parser.source.Confined allowed) {stream stream' : TokenStream}
    {found : Except Failure (Option Token)}
    (gives : (parser.pull stream session).Gives before (found, stream', next) after) :
    allowed before.forest after.forest := by
  refine Work.Confined.changes ?_ gives
  unfold pull
  split
  next => exact .pure _
  next => exact .bind (confined _ _ _) fun _ => .pure _

/-- Pulling a token moves a session on in its text, and keeps all that is in the forest. -/
theorem pull_spares (sparing : parser.source.Sparing) {stream stream' : TokenStream}
    {found : Except Failure (Option Token)}
    (gives : (parser.pull stream session).Gives before (found, stream', next) after) :
    next = { session with cursor := next.cursor } ∧
      before.forest.Preserves true after.forest [] := by
  refine ⟨?_, pull_confined (fun _ _ _ => Work.sparing_iff.mp (sparing _ _ _)) gives⟩
  unfold pull at gives
  cases here : session.cursor with
  | none =>
      rw [here] at gives
      cases (Work.gives_pure.mp gives).1
      rfl
  | some cursor =>
      rw [here] at gives
      rcases Work.gives_bind.mp gives with ⟨⟨_, _, moved⟩, _, -, gives⟩
      cases (Work.gives_pure.mp gives).1
      rfl

/-- A session that changes and is fed with what is left of its text goes on with values of its own.
Induction on the tokens that may be taken. -/
theorem takeTokens_owned (builds : parser.reductions.Builds growth rules)
    (settle : Reductions.Settle likeness growth rules)
    (tokens : ∀ token, likeness.token token token) (sparing : parser.source.Sparing)
    {start : Forest × Forest} {own : List (SequenceId × SequenceId)} (count : Nat) :
    ∀ {stream : TokenStream} {session next : Session} {before after : Workspace}
      {taken : Except Failure (List (Token × Nat))}, session.frozen = false →
      Session.Alike likeness start own (forestsOf before before) session session →
      (parser.takeTokens count stream session).Gives before (taken, next) after →
        next.frozen = false ∧ Session.Alike likeness start own
          (forestsOf after after) next next := by
  induction count with
  | zero =>
      intro stream session next before after taken changes alike gives
      rcases Work.gives_pure.mp gives with ⟨same, rfl⟩
      cases same
      exact ⟨changes, alike⟩
  | succ count ih =>
      intro stream session next before after taken changes alike gives
      rw [takeTokens] at gives
      rcases Work.gives_bind.mp gives with ⟨⟨found, stream', met⟩, between, pulled, gives⟩
      rcases pull_spares sparing pulled with ⟨same, spares⟩
      have spares := spares.forget likeness.spans
      have stays : likeness.Stays (forestsOf before before) (forestsOf between between) [] :=
        ⟨spares, spares⟩
      have metChanges : met.frozen = false := by
        rw [same]
        exact changes
      have metAlike : Session.Alike likeness start own (forestsOf between between) met met := by
        rw [same]
        exact ⟨rfl, rfl, alike.values.keep stays⟩
      have ends {taken' : Except Failure (List (Token × Nat))}
          (gives : Work.Gives (pure (taken', met)) between (taken, next) after) :
          next.frozen = false ∧
            Session.Alike likeness start own (forestsOf after after) next next := by
        rcases Work.gives_pure.mp gives with ⟨same, rfl⟩
        cases same
        exact ⟨metChanges, metAlike⟩
      cases found with
      | error failure => exact ends gives
      | ok found =>
          cases found with
          | none => exact ends gives
          | some token =>
              dsimp only at gives
              split at gives
              next => exact ends gives
              next count =>
                rcases Work.gives_bind.mp gives with ⟨⟨stepped, fed⟩, later, steps, gives⟩
                unfold step at steps
                simp only [metChanges, Bool.false_eq_true, if_false, Work.gives_bind] at steps
                rcases steps with ⟨⟨result, fed'⟩, _, feeds, steps⟩
                have onward := (feedAs_alike builds settle rfl rfl (tokens token) rfl metAlike
                  feeds feeds).2
                have unfrozen : fed'.frozen = false := by
                  rw [feedAs_eq feeds]
                  exact metChanges
                cases result with
                | error failure =>
                    rcases Work.gives_pure.mp steps with ⟨same, rfl⟩
                    cases same
                    rcases Work.gives_pure.mp gives with ⟨same, rfl⟩
                    cases same
                    exact ⟨unfrozen, onward⟩
                | ok value =>
                    rcases Work.gives_pure.mp steps with ⟨same, rfl⟩
                    cases same
                    rcases Work.gives_bind.mp gives with ⟨⟨rest, last⟩, _, takes, gives⟩
                    rcases Work.gives_pure.mp gives with ⟨same, rfl⟩
                    cases same
                    have noted : ({ fed' with result := value } : Session).frozen = false :=
                      unfrozen
                    exact ih noted ⟨rfl, rfl, onward.values⟩ takes

theorem exhaust_owned (builds : parser.reductions.Builds growth rules)
    (settle : Reductions.Settle likeness growth rules)
    (tokens : ∀ token, likeness.token token token) (sparing : parser.source.Sparing)
    {start : Forest × Forest} {own : List (SequenceId × SequenceId)}
    {taken : Except Failure (List Token)} (changes : session.frozen = false)
    (owned : likeness.Owned start (forestsOf before before) own session.stack.values
      session.stack.values)
    (gives : (parser.exhaust session).Gives before (taken, next) after) :
    likeness.Owned start (forestsOf after after) own next.stack.values next.stack.values := by
  unfold exhaust at gives
  rcases Work.gives_bind.mp gives with ⟨⟨result, last⟩, _, takes, gives⟩
  rcases Work.gives_pure.mp gives with ⟨same, rfl⟩
  cases same
  exact (takeTokens_owned builds settle tokens sparing _ changes
    ⟨rfl, rfl, owned⟩ takes).2.values

/-- All that is done to a session with values of its own leaves it with such values, and gives
sessions with values of their own. -/
theorem act_owned (builds : parser.reductions.Builds growth rules)
    (settle : Reductions.Settle likeness growth rules)
    (tokens : ∀ token, likeness.token token token) (sparing : parser.source.Sparing)
    {own : List SequenceId} (occupies : likeness.Occupies before.forest session.stack.values own)
    {deed : Deed}
    (gives : (parser.act deed session).Gives before (answer, next, obtained) after) :
    Acted likeness (forestsOf before before) (forestsOf after after)
      (own.map fun id => (id, id)) session session next obtained next obtained := by
  have copies {copied : Session} {before after : Workspace} {session : Session}
      {own : List (SequenceId × SequenceId)}
      (alike : likeness.AllAlike (forestsOf before before) session.stack.values
        session.stack.values own) (apart : own.Pairwise Separate)
      (copies : session.copy.Gives before copied after) :=
    (Session.copy_alike (.refl session) alike apart copies copies).2
  cases deed with
  | feed feed =>
      exact (act_feed builds settle tokens (.refl session) occupies.alike occupies.separate gives
        gives).2
  | accepts =>
      rcases Work.gives_bind.mp gives with ⟨accepted, _, asked, gives⟩
      rcases Work.gives_pure.mp gives with ⟨same, rfl⟩
      cases same
      have recorded := (accepts_recording session.standpoint).after asked
      rw [recorded]
      exact .aside (.refl _ _)
  | copy =>
      rcases Work.gives_bind.mp gives with ⟨copied, _, copied_gives, gives⟩
      rcases Work.gives_pure.mp gives with ⟨same, rfl⟩
      cases same
      have owned := copies occupies.alike occupies.separate copied_gives
      exact .obtained (.refl _) owned
  | freeze =>
      rcases Work.gives_bind.mp gives with ⟨_, _, frozen, gives⟩
      rcases Work.gives_pure.mp gives with ⟨same, rfl⟩
      cases same
      rcases Work.gives_bind.mp frozen with ⟨copied, _, copied_gives, frozen⟩
      rcases Work.gives_pure.mp frozen with ⟨rfl, rfl⟩
      have owned := copies occupies.alike occupies.separate copied_gives
      exact .obtained (.refl _) owned
  | thaw =>
      rcases Work.gives_bind.mp gives with ⟨_, _, thawed, gives⟩
      rcases Work.gives_pure.mp gives with ⟨same, rfl⟩
      cases same
      rcases Work.gives_bind.mp thawed with ⟨copied, _, copied_gives, thawed⟩
      rcases Work.gives_pure.mp thawed with ⟨rfl, rfl⟩
      have owned := copies occupies.alike occupies.separate copied_gives
      exact .obtained (.refl _) owned
  | exhaust =>
      simp only [act] at gives
      cases frozen : session.frozen with
      | false =>
          simp only [frozen, Bool.false_eq_true, if_false, Work.gives_bind] at gives
          rcases gives with ⟨⟨taken, fed⟩, _, exhausts, gives⟩
          rcases Work.gives_pure.mp gives with ⟨same, rfl⟩
          cases same
          exact .itself frozen (.refl _)
            (exhaust_owned builds settle tokens sparing frozen occupies.owned exhausts)
      | true =>
          simp only [frozen, if_true, Work.gives_bind] at gives
          rcases gives with ⟨result, _, exhausts, gives⟩
          unfold exhaustFrozen at exhausts
          rcases Work.gives_bind.mp exhausts with ⟨_, _, thawed, exhausts⟩
          rcases Work.gives_bind.mp thawed with ⟨copied, _, copied_gives, thawed⟩
          rcases Work.gives_pure.mp thawed with ⟨rfl, rfl⟩
          rcases Work.gives_bind.mp exhausts with ⟨⟨taken, fed⟩, _, exhausted, exhausts⟩
          have fresh := copies occupies.alike occupies.separate copied_gives
          have unfrozen : ({ copied with frozen := false } : Session).frozen = false := rfl
          have owned := exhaust_owned builds settle tokens sparing unfrozen fresh exhausted
          cases taken with
          | error failure =>
              rcases Work.gives_pure.mp exhausts with ⟨rfl, rfl⟩
              rcases Work.gives_pure.mp gives with ⟨same, rfl⟩
              cases same
              exact .aside owned.stays
          | ok found =>
              rcases Work.gives_bind.mp exhausts with ⟨_, _, frozen, exhausts⟩
              rcases Work.gives_pure.mp exhausts with ⟨rfl, rfl⟩
              rcases Work.gives_bind.mp frozen with ⟨last, _, last_gives, frozen⟩
              rcases Work.gives_pure.mp frozen with ⟨rfl, rfl⟩
              rcases Work.gives_pure.mp gives with ⟨same, rfl⟩
              cases same
              rcases owned.alike with ⟨used, alike, apart, -⟩
              have new := owned.trans (copies alike apart last_gives)
              exact .obtained (.refl _) new

end Likeness

end Parser

end Lalr
