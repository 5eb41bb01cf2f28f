import Lalr.Proofs.Machine.Agreement
import Lalr.Proofs.Parser.Making
import Lalr.Proofs.Parser.Running
import Lalr.Proofs.Shaping.Coupling

/-!
# Sessions in two forests

Two sessions with the same states and with values that are alike do the same about
tokens that are alike. They go on with the same states and values that are alike,
and each leaves alone what lies outside of its own values.
-/

namespace Lalr

/-- Two sessions of parses that have come the same way, with values that are alike in what they
owned at some time or in what is new since then. -/
structure Session.Alike (likeness : ValueLikeness) (start : Forest × Forest)
    (own : List (SequenceId × SequenceId)) (forests : Forest × Forest)
    (session session' : Session) : Prop where
  states : session.stack.states = session'.stack.states
  ending : session.ending = session'.ending
  values : likeness.Owned start forests own session.stack.values session'.stack.values

namespace Parser

variable {likeness : ValueLikeness} {parser parser' : Parser} {growth : Growth} {rules : List Rule}
  {start : Forest × Forest} {own : List (SequenceId × SequenceId)} {token token' : Token}

/-- The effects of parses on tokens that are alike keep values alike. -/
theorem simulate (builds : parser.reductions.Builds growth rules)
    (same : parser'.reductions = parser.reductions)
    (settle : Reductions.Settle likeness growth rules) (tokens : likeness.token token token')
    (start : Forest × Forest) (own : List (SequenceId × SequenceId)) :
    (parser.effects token).Simulate
      (fun before before' values values' =>
        likeness.Owned start (forestsOf before before') own values values')
      Eq (parser'.effects token') where
  stop _ owned := owned
  trace _ _ _ _ owned := owned
  shift := by
    intro before before' values values' owned
    have shifts : (parser.effects token).shift = pure (.ok (.token token)) := by
      simp only [effects, builds.shift_eq]
      rfl
    have shifts' : (parser'.effects token').shift = pure (.ok (.token token')) := by
      simp only [effects, same, builds.shift_eq]
      rfl
    rw [shifts, shifts']
    exact owned.cons_token tokens
  forget owned := owned.tail
  reduce := by
    rintro before before' values values' rule _ rfl owned
    rcases owned.replace rule.expansion.length with ⟨used, alike, apart, gives, fails⟩
    have reduced := Reductions.coupled_reduce builds settle rule alike apart
    simp only [effects, same]
    exact reduced.imp gives fails
  fault := rfl

/-- Two answers of which both are values that are alike and lie in no sequence twice, or both are
failures, which are the same if the tokens were the same. -/
def AnswersAlike (likeness : ValueLikeness) (forests : Forest × Forest) (token token' : Token) :
    Except Failure Value → Except Failure Value → Prop
  | .ok value, .ok value' =>
    ∃ used, likeness.Alike forests value value' used ∧ used.Pairwise Separate
  | .error failure, .error failure' => token = token' → failure = failure'
  | _, _ => False

/-- Sessions that are alike do the same about tokens that are alike. -/
theorem feedAs_alike (builds : parser.reductions.Builds growth rules)
    (settle : Reductions.Settle likeness growth rules)
    (reductions : parser'.reductions = parser.reductions) (table : parser'.table = parser.table)
    (tokens : likeness.token token token') (kinds : token.kind = token'.kind)
    {isEnd : Bool} {session session' next next' : Session}
    {before before' after after' : Workspace} {answer answer' : Except Failure Value}
    (alike : Session.Alike likeness start own (forestsOf before before') session session')
    (gives : (parser.feedAs isEnd session token).Gives before (answer, next) after)
    (gives' : (parser'.feedAs isEnd session' token').Gives before' (answer', next') after') :
    AnswersAlike likeness (forestsOf after after') token token' answer answer' ∧
      Session.Alike likeness start own (forestsOf after after') next next' := by
  rcases alike with ⟨states, ending, values⟩
  unfold feedAs at gives gives'
  simp only [Work.gives_bind] at gives gives'
  rcases gives with ⟨⟨outcome, stack⟩, between, fed, gives⟩
  rcases gives' with ⟨⟨outcome', stack'⟩, between', fed', gives'⟩
  have same := Table.feed_simulates (Table.Alike.refl parser.table fun _ => rfl)
    (fun {rule rule'} same => by rw [same]; exact ⟨rfl, rfl⟩)
    (simulate builds reductions settle tokens start own) token.kind
    (if isEnd then some session.ending else none)
    (parser.table.reductionBound session.stack.states.length) states values
  rw [table, ← kinds, ← ending, ← states] at fed'
  rw [fed, fed'] at same
  rcases same with ⟨outcomes, levels, owned⟩
  dsimp only at outcomes levels owned
  have onward : Session.Alike likeness start own (forestsOf between between')
      { session with stack } { session' with stack := stack' } := ⟨levels, ending, owned⟩
  cases outcome <;> cases outcome' <;> try exact outcomes.elim
  all_goals
    simp only [Work.gives_pure, Prod.mk.injEq] at gives gives'
    rcases gives with ⟨⟨rfl, rfl⟩, rfl⟩
    rcases gives' with ⟨⟨rfl, rfl⟩, rfl⟩
    refine ⟨?_, onward⟩
  case shifted.shifted => exact ⟨[], .nothing, .nil⟩
  case finished.finished value value' =>
    rcases outcomes with ⟨top, top'⟩
    rcases owned with ⟨⟨used, alike, apart, -⟩, -⟩
    revert top top' alike
    cases stack.values <;> cases stack'.values <;> intro top top' alike <;> cases top <;> cases top'
    cases alike with
    | cons head rest => exact ⟨_, head, (List.pairwise_append.mp apart).1⟩
  case rejected.rejected expected expected' =>
    intro same
    rcases (show expected = expected' from outcomes) with rfl
    rw [same, rejection, rejection, Session.standing?, Session.standing?, levels]
  case failed.failed failure failure' => exact fun _ => outcomes
  case endless.endless => exact fun _ => rfl

/-- The reductions of a parser that has been made without a transformer are those of its rules. -/
theorem builds_of_make {terminals : List Terminal} {table : Table State} {ignored : List Data}
    {options : Options} {before after : Workspace}
    (made : (make terminals rules table ignored options).Yields before parser after)
    (plain : options.transformer = .ok none) :
    parser.reductions.Builds (Parser.growth options none) rules := by
  rcases assemble_of_make made with ⟨count, assembled, -⟩
  simp only [assemble, usable, plain, Except.mapError, bind_eq_ok] at assembled
  rcases assembled with
    ⟨_, _, _, ⟨⟩, reductions, reduced, _, _, _, _, _, _, _, _, _, _, assembled⟩
  cases assembled
  rcases Reductions.make_eq_ok reduced with ⟨entries, tokens⟩
  exact ⟨rfl, tokens, entries⟩

end Parser

end Lalr
