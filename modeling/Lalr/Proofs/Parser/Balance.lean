import Lalr.Proofs.Machine.Soundness
import Lalr.Proofs.Parser.Running

/-!
# The two stacks of a session

A session keeps its states and its values apart. Its states are a path of the table
from the start state, and the values are meant to stand for the symbols of this path,
one for each. A token that is shifted gets its state before its value is made. Where
the value cannot be made, the session goes on with a state that has none, and this is
the only way in which the two stacks come apart.
-/

namespace Lalr

variable {σ ω ε w : Type} [DecidableEq σ] {table : Table σ} {starting : σ}

namespace Table

/-- What holds of a stack of which some values may be missing. -/
def Stands (table : Table σ) (starting : σ) (missing : Nat) (stack : Stack σ ω) : Prop :=
  ∃ symbols, table.Path starting stack.states symbols ∧
    stack.values.length ≤ symbols.length ∧ symbols.length ≤ stack.values.length + missing

/-- Whether the reductions on a token lead to a shift that finds no value for the token. -/
inductive Spoils (table : Table σ) (effects : Effects (StateM w) σ ω ε) (kind : String) :
    Nat → Stack σ ω → w → Prop
  | shift {fuel : Nat} {stack : Stack σ ω} {state after : w} {target : σ} {failure : ε}
      (move : table.move stack.states kind = .shift target)
      (failed : effects.shift.run
        ((effects.trace stack.states (some (.shift target))).run state).2 =
          (.error failure, after)) :
      Spoils table effects kind (fuel + 1) stack state
  | reduce {fuel : Nat} {stack : Stack σ ω} {state between : w} {rule : Rule} {target : σ}
      {value : ω} (move : table.move stack.states kind = .reduce rule)
      (found : table.target (stack.states.drop rule.expansion.length) rule.origin = .ok target)
      (reduced : (effects.reduce rule (stack.values.take rule.expansion.length).reverse).run
        ((effects.trace stack.states (some (.reduce rule))).run state).2 = (.ok value, between))
      (spoils : Spoils table effects kind fuel
        { states := target :: (below rule stack).states
          values := value :: (below rule stack).values } between) :
      Spoils table effects kind (fuel + 1) stack state

namespace Stands

variable {missing : Nat} {stack : Stack σ ω} {kind : String}

/-- A shift that finds a value for its token. -/
theorem shift (stands : table.Stands starting missing stack) {target : σ}
    (move : table.move stack.states kind = .shift target) (value : ω) :
    table.Stands starting missing
      { states := target :: stack.states, values := value :: stack.values } := by
  rcases stands with ⟨symbols, path, least, most⟩
  rcases move_eq_shift move with ⟨top, found, moves⟩
  refine ⟨kind :: symbols, path.extend found moves, ?_, ?_⟩
  · simpa using least
  · simp only [List.length_cons]
    omega

/-- A shift that finds none leaves one more value missing. -/
theorem spoil (stands : table.Stands starting missing stack) {target : σ}
    (move : table.move stack.states kind = .shift target) :
    table.Stands starting (missing + 1) { stack with states := target :: stack.states } := by
  rcases stands with ⟨symbols, path, least, most⟩
  rcases move_eq_shift move with ⟨top, found, moves⟩
  refine ⟨kind :: symbols, path.extend found moves, ?_, ?_⟩
  · simp only [List.length_cons]
    omega
  · simp only [List.length_cons]
    omega

/-- A reduction takes as much off both stacks, and finds a state to go on with. Where values are
missing there may be fewer of them than the rule has symbols. -/
theorem reduce (stands : table.Stands starting missing stack)
    (coherent : table.Coherent starting) {rule : Rule}
    (move : table.move stack.states kind = .reduce rule) :
    table.Stands starting missing (below rule stack) ∧
      ∃ target, table.target (stack.states.drop rule.expansion.length)
        rule.origin = .ok target ∧
        ∀ value : ω, table.Stands starting missing
          { states := target :: (below rule stack).states
            values := value :: (below rule stack).values } := by
  rcases stands with ⟨symbols, path, least, most⟩
  rcases coherent.reduction path move with ⟨rest, target, rfl, found, next⟩
  have left := path.drop rule.expansion.length (by simp)
  rw [List.drop_left' (by simp)] at left
  simp only [List.length_append, List.length_reverse, List.length_map] at least most
  have fewest : (below rule stack).values.length ≤ rest.length := by
    simp only [below, List.length_drop]
    omega
  have enough : rest.length ≤ (below rule stack).values.length + missing := by
    simp only [below, List.length_drop]
    omega
  refine ⟨⟨rest, left, fewest, enough⟩, target, found, fun value => ⟨_, next, ?_, ?_⟩⟩
  · simpa using fewest
  · simp only [List.length_cons]
    omega

end Stands

section Feeding

variable {missing : Nat} {effects : Effects (StateM w) σ ω ε} {kind : String}
  {ending : Option σ}

theorem not_spoils_of_lost {fuel : Nat} {stack : Stack σ ω} {state : w} {fault : Fault}
    (move : table.move stack.states kind = .lost fault) :
    ¬table.Spoils effects kind fuel stack state := by
  intro spoils
  cases spoils with
  | shift other => cases move.symm.trans other
  | reduce other => cases move.symm.trans other

theorem not_spoils_of_rejected {fuel : Nat} {stack : Stack σ ω} {state : w}
    {expected : List String} (move : table.move stack.states kind = .rejected expected) :
    ¬table.Spoils effects kind fuel stack state := by
  intro spoils
  cases spoils with
  | shift other => cases move.symm.trans other
  | reduce other => cases move.symm.trans other

theorem not_spoils_of_shift {fuel : Nat} {stack : Stack σ ω} {state after : w} {target : σ}
    {value : ω} (move : table.move stack.states kind = .shift target)
    (shifted : effects.shift.run
      ((effects.trace stack.states (some (.shift target))).run state).2 = (.ok value, after)) :
    ¬table.Spoils effects kind fuel stack state := by
  intro spoils
  cases spoils with
  | shift other failed =>
      cases move.symm.trans other
      cases shifted.symm.trans failed
  | reduce other => cases move.symm.trans other

theorem not_spoils_of_reduce {fuel : Nat} {stack : Stack σ ω} {state after : w} {rule : Rule}
    {failure : ε} (move : table.move stack.states kind = .reduce rule)
    (reduced : (effects.reduce rule (stack.values.take rule.expansion.length).reverse).run
      ((effects.trace stack.states (some (.reduce rule))).run state).2 =
        (.error failure, after)) :
    ¬table.Spoils effects kind fuel stack state := by
  intro spoils
  cases spoils with
  | shift other => cases move.symm.trans other
  | reduce other _ different =>
      cases move.symm.trans other
      cases reduced.symm.trans different

/-- A reduction leaves it to the rest of the moves whether the stack is spoilt. -/
theorem spoils_reduce_iff {fuel : Nat} {stack : Stack σ ω} {state between : w} {rule : Rule}
    {target : σ} {value : ω} (move : table.move stack.states kind = .reduce rule)
    (found : table.target (stack.states.drop rule.expansion.length) rule.origin = .ok target)
    (reduced : (effects.reduce rule (stack.values.take rule.expansion.length).reverse).run
      ((effects.trace stack.states (some (.reduce rule))).run state).2 = (.ok value, between)) :
    table.Spoils effects kind (fuel + 1) stack state ↔
      table.Spoils effects kind fuel
        { states := target :: (below rule stack).states
          values := value :: (below rule stack).values } between := by
  constructor
  · intro spoils
    cases spoils with
    | shift other => cases move.symm.trans other
    | reduce other same again spoils =>
        cases move.symm.trans other
        cases found.symm.trans same
        cases reduced.symm.trans again
        exact spoils
  · exact .reduce move found reduced

/-- What a token does to a stack: no more values are missing afterwards than before, unless the
token is shifted and spoils the stack, which leaves a single state more. -/
theorem feed_stands (coherent : table.Coherent starting) (fuel : Nat) :
    ∀ {stack : Stack σ ω} {state : w}, table.Stands starting missing stack →
      (table.Stands starting missing
          ((table.feed effects kind ending fuel stack).run state).1.2 ∧
        ¬(ending = none ∧ table.Spoils effects kind fuel stack state)) ∨
      ((ending = none ∧ table.Spoils effects kind fuel stack state) ∧
        ∃ (met : Stack σ ω) (target : σ), table.Stands starting missing met ∧
          table.move met.states kind = .shift target ∧
          ((table.feed effects kind ending fuel stack).run state).1.2 =
            { met with states := target :: met.states }) := by
  induction fuel with
  | zero =>
      intro stack state stands
      left
      refine ⟨stands, ?_⟩
      rintro ⟨_, ⟨⟩⟩
  | succ fuel ih =>
      intro stack state stands
      cases move : table.move stack.states kind with
      | lost fault =>
          left
          rw [feed_of_lost effects move]
          exact ⟨stands, fun spoils => not_spoils_of_lost move spoils.2⟩
      | rejected expected =>
          left
          rw [feed_of_rejected effects move]
          exact ⟨stands, fun spoils => not_spoils_of_rejected move spoils.2⟩
      | shift target =>
          cases ending with
          | some state =>
              left
              rw [feed_of_shift_end effects move rfl]
              exact ⟨stands, by simp⟩
          | none =>
              rw [feed_of_shift effects move rfl]
              simp only [StateT.run_bind]
              simp only [bind]
              rcases shifted : StateT.run effects.shift
                (StateT.run (effects.trace stack.states (some (.shift target))) state).2
                with ⟨answer, after⟩
              dsimp only
              cases answer with
              | error failure =>
                  right
                  exact ⟨⟨trivial, .shift move shifted⟩, stack, target, stands, move, rfl⟩
              | ok value =>
                  left
                  exact ⟨stands.shift move value, fun spoils =>
                    not_spoils_of_shift move shifted spoils.2⟩
      | reduce rule =>
          rcases stands.reduce coherent move with ⟨rest, target, found, next⟩
          rw [feed_of_reduce effects move found]
          simp only [StateT.run_bind]
          simp only [bind]
          rcases reduced : StateT.run
            (effects.reduce rule (stack.values.take rule.expansion.length).reverse)
            (StateT.run (effects.trace stack.states (some (.reduce rule))) state).2
            with ⟨answer, between⟩
          dsimp only
          cases answer with
          | error failure =>
              left
              exact ⟨rest, fun spoils => not_spoils_of_reduce move reduced spoils.2⟩
          | ok value =>
              rw [spoils_reduce_iff move found reduced]
              -- a parse that is ended by the reduction makes no more moves
              by_cases ended : (ending.isSome && some target == ending) = true
              · left
                simp only [ended, if_true]
                refine ⟨next value, ?_⟩
                rintro ⟨rfl, _⟩
                simp at ended
              · simp only [ended]
                exact ih (next value)

end Feeding

end Table

namespace Parser

variable {parser : Parser} {session next : Session} {token : Token} {isEnd : Bool}
  {missing : Nat} {before after : Workspace} {answer : Except Failure Value}

/-- Whether a token is to be shifted by a session where no value can be made of it. -/
def Spoils (parser : Parser) (isEnd : Bool) (session : Session) (token : Token)
    (workspace : Workspace) : Prop :=
  isEnd = false ∧
    parser.table.Spoils (parser.effects token) token.kind
      (parser.table.reductionBound session.stack.states.length) session.stack workspace

/-- The sessions that tokens lead to from a new one, with the number of those tokens whose values
could not be made. Every failure is caught, and between two tokens anything may happen to the
workspace. -/
inductive Reaches (parser : Parser) : Nat → Session → Prop
  | start {text start : Option String} {session : Session}
      (new : parser.start text start = .ok session) : Reaches parser 0 session
  | feed {missing : Nat} {session next : Session} {token : Token} {isEnd : Bool}
      {before after : Workspace} {answer : Except Failure Value}
      (reaches : Reaches parser missing session)
      (fed : (parser.feedAs isEnd session token).Gives before (answer, next) after)
      (unspoilt : ¬parser.Spoils isEnd session token before) : Reaches parser missing next
  | spoil {missing : Nat} {session next : Session} {token : Token} {isEnd : Bool}
      {before after : Workspace} {answer : Except Failure Value}
      (reaches : Reaches parser missing session)
      (fed : (parser.feedAs isEnd session token).Gives before (answer, next) after)
      (spoils : parser.Spoils isEnd session token before) : Reaches parser (missing + 1) next

theorem stack_of_feedAs
    (fed : (parser.feedAs isEnd session token).Gives before (answer, next) after) :
    next.stack = ((parser.table.feed (parser.effects token) token.kind
      (if isEnd then some session.ending else none)
      (parser.table.reductionBound session.stack.states.length) session.stack).run before).1.2 := by
  unfold feedAs at fed
  simp only [Work.gives_bind] at fed
  rcases fed with ⟨⟨outcome, stack⟩, between, ran, fed⟩
  rw [ran]
  cases outcome <;> simp only [Work.gives_pure, Prod.mk.injEq] at fed <;>
    rcases fed with ⟨⟨_, rfl⟩, _⟩ <;> rfl

/-- What a token does to the stack of a session. -/
theorem feedAs_stands (coherent : parser.table.Coherent session.starting)
    (stands : parser.table.Stands session.starting missing session.stack)
    (fed : (parser.feedAs isEnd session token).Gives before (answer, next) after) :
    (parser.table.Stands session.starting missing next.stack ∧
        ¬parser.Spoils isEnd session token before) ∨
      (parser.Spoils isEnd session token before ∧
        ∃ (met : Stack State Value) (target : State),
          parser.table.Stands session.starting missing met ∧
          parser.table.move met.states token.kind = .shift target ∧
          next.stack = { met with states := target :: met.states }) := by
  have never : (if isEnd then some session.ending else none) = none ↔ isEnd = false := by
    cases isEnd <;> simp
  rw [stack_of_feedAs fed, Spoils, ← never]
  exact Table.feed_stands coherent _ stands

namespace Reaches

theorem stands (reaches : parser.Reaches missing session)
    (coherent : parser.table.Coherent session.starting) :
    parser.table.Stands session.starting missing session.stack := by
  induction reaches with
  | @start text start session new =>
      simp only [Parser.start, bind_eq_ok] at new
      rcases new with ⟨name, _, new⟩
      split at new
      · cases new
        exact ⟨[], .start, by simp, by simp⟩
      · cases new
  | @feed missing session next token isEnd _ _ _ reaches fed unspoilt ih =>
      have same : next.starting = session.starting := by rw [feedAs_eq fed]
      rw [same] at coherent ⊢
      rcases feedAs_stands coherent (ih coherent) fed with ⟨stands, _⟩ | ⟨spoils, _⟩
      · exact stands
      · exact absurd spoils unspoilt
  | @spoil missing session next token isEnd _ _ _ reaches fed spoils ih =>
      have same : next.starting = session.starting := by rw [feedAs_eq fed]
      rw [same] at coherent ⊢
      rcases feedAs_stands coherent (ih coherent) fed with
        ⟨_, unspoilt⟩ | ⟨_, met, _, stands, move, left⟩
      · exact absurd spoils unspoilt
      · rw [left]
        exact stands.spoil move

end Reaches

/-- The states of a session are always a path of the table from its start state, and there is never
a value too many. At most as many values are missing as tokens have been shifted without finding
one: in a session where none is missing, this is the only way in which a token leaves one
missing. -/
theorem stack_of_reaches (reaches : parser.Reaches missing session)
    (coherent : parser.table.Coherent session.starting) :
    session.stack.states.getLast? = some session.starting ∧
      (∃ symbols, parser.table.Path session.starting session.stack.states symbols) ∧
      session.stack.values.length + 1 ≤ session.stack.states.length ∧
      session.stack.states.length ≤ session.stack.values.length + 1 + missing ∧
      ∀ {token : Token} {isEnd : Bool} {before after : Workspace} {next : Session}
        {answer : Except Failure Value},
        (parser.feedAs isEnd session token).Gives before (answer, next) after →
          session.stack.states.length = session.stack.values.length + 1 →
            (next.stack.states.length = next.stack.values.length + 1 ↔
              ¬parser.Spoils isEnd session token before) := by
  rcases reaches.stands coherent with ⟨symbols, path, least, most⟩
  have length := path.length_eq
  refine ⟨path.getLast?_eq, ⟨symbols, path⟩, by omega, by omega, ?_⟩
  intro token isEnd before after next answer fed balanced
  have stands : parser.table.Stands session.starting 0 session.stack :=
    ⟨symbols, path, by omega, by omega⟩
  rcases feedAs_stands coherent stands fed with ⟨⟨met, path, least, most⟩, unspoilt⟩ |
    ⟨spoils, met, target, ⟨_, path, least, most⟩, _, next⟩
  · have length := path.length_eq
    exact iff_of_true (by omega) unspoilt
  · have length := path.length_eq
    refine iff_of_false ?_ (not_not_intro spoils)
    simp only [next, List.length_cons]
    omega

/-- A parser in which no value can be made of an A. -/
def wilfulParser : Parser :=
  { letterParser with
    reductions :=
      { letterParser.reductions with
        tokens := [("A", fun _ => throw (.raised "ValueError" "refused"))] } }

/-- A new session of this parser. -/
def wilfulSession : Session where
  stack := { states := [.number 0], values := [] }
  starting := .number 0
  ending := .number 3

/-- What becomes of it when it is fed with an A. -/
def spoiltSession : Session :=
  { wilfulSession with stack := { states := [.number 1, .number 0], values := [] } }

theorem wilfulParser_coherent : wilfulParser.table.Coherent wilfulSession.starting := by
  have proper : letterTable.Proper "start" (.number 0) (.number 3) :=
    Table.proper_of_isProper (by decide)
  exact proper.toCoherent

theorem wilfulSession_fed : (wilfulParser.feedAs false wilfulSession
    { kind := "A", text := "a" }).Gives {}
      (.error (.raised "ValueError" "refused"), spoiltSession) {} := rfl

theorem wilfulParser_reaches : wilfulParser.Reaches 1 spoiltSession := by
  have new : wilfulParser.start none none = .ok wilfulSession := rfl
  exact .spoil (.start new) wilfulSession_fed ⟨rfl, .shift rfl rfl⟩

theorem stack_of_reaches_wilful :
    spoiltSession.stack.states.getLast? = some spoiltSession.starting ∧
      spoiltSession.stack.states.length ≤ spoiltSession.stack.values.length + 1 + 1 := by
  rcases stack_of_reaches wilfulParser_reaches wilfulParser_coherent with ⟨last, _, _, most, _⟩
  exact ⟨last, most⟩

/-- A caught failure may leave a state without a value, although the table is coherent. -/
theorem spoiltSession_unbalanced :
    wilfulParser.start none none = .ok wilfulSession ∧
      wilfulParser.table.Coherent wilfulSession.starting ∧
      (wilfulParser.feedAs false wilfulSession { kind := "A", text := "a" }).Gives {}
        (.error (.raised "ValueError" "refused"), spoiltSession) {} ∧
      spoiltSession.stack.states.length ≠ spoiltSession.stack.values.length + 1 :=
  ⟨rfl, wilfulParser_coherent, wilfulSession_fed, by decide⟩

end Parser

end Lalr
