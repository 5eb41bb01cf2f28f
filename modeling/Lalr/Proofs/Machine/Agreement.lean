import Mathlib.Data.List.Forall2
import Lalr.Proofs.Machine.Tracking
import Lalr.Proofs.Pairs
import Lalr.Proofs.Runs

/-!
# Agreement of parses

A parse depends on its table and on its effects only through what they answer. Two
parses therefore agree step by step if their tables say the same, the rules that
they reduce by being alike, and if their effects answer alike wherever their states
are related. Which rules are alike and which states are related is left open.
-/

namespace Lalr

variable {s t : Type}

/-- Two runs that, from related states, give the same answer and end in related states. -/
structure Agrees {α : Type} (related : s → t → Prop) (first : StateM s α)
    (second : StateM t α) :
    Prop where
  run : ∀ (state : s) (state' : t), related state state' →
    (first.run state).1 = (second.run state').1 ∧
      related (first.run state).2 (second.run state').2

namespace Agrees

variable {α β : Type} {related : s → t → Prop}

theorem pure (value : α) : Agrees related (Pure.pure value) (Pure.pure value) :=
  ⟨fun _ _ states => ⟨rfl, states⟩⟩

theorem bind {first : StateM s α} {second : StateM t α} {rest : α → StateM s β}
    {rest' : α → StateM t β} (agrees : Agrees related first second)
    (go : ∀ value, Agrees related (rest value) (rest' value)) :
    Agrees related (first >>= rest) (second >>= rest') := by
  constructor
  intro state state' states
  rcases agrees.run _ _ states with ⟨answer, states⟩
  simp only [StateT.run_bind]
  simp only [Bind.bind]
  rw [← answer]
  exact (go _).run _ _ states

end Agrees

/-- Whether two actions move on to the same state or reduce by rules that are alike. -/
def Action.Alike {σ : Type} (alike : Rule → Rule → Prop) : Action σ → Action σ → Prop
  | .shift target, .shift target' => target = target'
  | .reduce rule, .reduce rule' => alike rule rule'
  | _, _ => False

theorem Action.Alike.eq {σ : Type} {action action' : Action σ}
    (actions : action.Alike Eq action') : action = action' := by
  cases action <;> cases action' <;> simp_all [Action.Alike]

/-- Whether two moves are the same, apart from rules that are alike. -/
def Move.Alike {σ : Type} (alike : Rule → Rule → Prop) : Move σ → Move σ → Prop
  | .lost fault, .lost fault' => fault = fault'
  | .rejected expected, .rejected expected' => expected = expected'
  | .shift target, .shift target' => target = target'
  | .reduce rule, .reduce rule' => alike rule rule'
  | _, _ => False

/-- Two rows with the same entries one by one, apart from rules that are alike. -/
def Row.Alike {σ : Type} (alike : Rule → Rule → Prop) : Row σ → Row σ → Prop :=
  List.Forall₂ fun entry entry' => entry.1 = entry'.1 ∧ entry.2.Alike alike entry'.2

/-- Two tables with the same rows one by one, apart from rules that are alike. -/
structure Table.Alike {σ : Type} (alike : Rule → Rule → Prop)
    (first second : Table σ) : Prop where
  rows : List.Forall₂ (fun row row' => row.1 = row'.1 ∧ Row.Alike alike row.2 row'.2)
    first.rows second.rows
  starts : first.starts = second.starts
  ends : first.ends = second.ends

/-- Two kinds of effects that answer alike for rules that are alike. -/
structure Effects.Agree {σ ω ε : Type} (related : s → t → Prop)
    (alike : Rule → Rule → Prop) (first : Effects (StateM s) σ ω ε)
    (second : Effects (StateM t) σ ω ε) : Prop where
  stop : ∀ states, Agrees related (first.trace states none) (second.trace states none)
  trace : ∀ states action action', Action.Alike alike action action' →
    Agrees related (first.trace states (some action)) (second.trace states (some action'))
  shift : Agrees related first.shift second.shift
  reduce : ∀ {rule rule'} values, alike rule rule' →
    Agrees related (first.reduce rule values) (second.reduce rule' values)
  fault : first.fault = second.fault

/-- Whether two answers, with the states that they come with, are alike where some values lie on the
stacks: both are values, and what is known holds with them on top, or both are the same failure. -/
def Answered {ω ω' ε : Type} (known : s → t → List ω → List ω' → Prop)
    (values : List ω) (values' : List ω') : Except ε ω × s → Except ε ω' × t → Prop :=
  Coupled (fun value value' state state' =>
    known state state' (value :: values) (value' :: values'))
    fun state state' => known state state' values values'

/-- Two kinds of effects that fail alike, and keep what is known of their states and of the values
on their stacks. -/
structure Effects.Simulate {σ ω ω' ε : Type} (known : s → t → List ω → List ω' → Prop)
    (alike : Rule → Rule → Prop) (first : Effects (StateM s) σ ω ε)
    (second : Effects (StateM t) σ ω' ε) : Prop where
  stop : ∀ {state state' values values'} states, known state state' values values' →
    known ((first.trace states none).run state).2 ((second.trace states none).run state').2
      values values'
  trace : ∀ {state state' values values'} states {action action'},
    Action.Alike alike action action' → known state state' values values' →
      known ((first.trace states (some action)).run state).2
        ((second.trace states (some action')).run state').2 values values'
  shift : ∀ {state state' values values'}, known state state' values values' →
    Answered known values values' (first.shift.run state) (second.shift.run state')
  forget : ∀ {state state' value value' values values'},
    known state state' (value :: values) (value' :: values') → known state state' values values'
  reduce : ∀ {state state' values values' rule rule'}, alike rule rule' →
    known state state' values values' →
      Answered known (values.drop rule.expansion.length) (values'.drop rule.expansion.length)
        ((first.reduce rule (values.take rule.expansion.length).reverse).run state)
        ((second.reduce rule' (values'.take rule.expansion.length).reverse).run state')
  fault : first.fault = second.fault

/-- Whether two outcomes are the same, apart from the values that parses have finished with, which
lie on top of the stacks. -/
def Outcome.Alike {σ ω ω' ε : Type} (stack : Stack σ ω) (stack' : Stack σ ω') :
    Outcome ω ε → Outcome ω' ε → Prop
  | .shifted, .shifted => True
  | .finished value, .finished value' =>
    stack.values.head? = some value ∧ stack'.values.head? = some value'
  | .rejected expected, .rejected expected' => expected = expected'
  | .failed failure, .failed failure' => failure = failure'
  | .endless, .endless => True
  | _, _ => False

/-- Whether two parses have done the same about a token: with the same outcome, stacks of the same
states, and values of which what is known holds. -/
structure FedAlike {σ ω ω' ε : Type} (known : s → t → List ω → List ω' → Prop)
    (fed : (Outcome ω ε × Stack σ ω) × s)
    (fed' : (Outcome ω' ε × Stack σ ω') × t) : Prop where
  outcome : Outcome.Alike fed.1.2 fed'.1.2 fed.1.1 fed'.1.1
  states : fed.1.2.states = fed'.1.2.states
  known : known fed.2 fed'.2 fed.1.2.values fed'.1.2.values

section Answers

variable {σ ω ω' ε : Type} {known : s → t → List ω → List ω' → Prop}
  {values : List ω} {values' : List ω'} {state : s} {state' : t}

theorem run_seq {α : Type} (first : StateM s Unit) (rest : Unit → StateM s α) (state : s) :
    (first >>= rest).run state = (rest ()).run (first.run state).2 := rfl

/-- Parses that go on alike after answers that are alike have done the same. -/
theorem FedAlike.bind {run : StateM s (Except ε ω)} {run' : StateM t (Except ε ω')}
    {go : Except ε ω → StateM s (Outcome ω ε × Stack σ ω)}
    {go' : Except ε ω' → StateM t (Outcome ω' ε × Stack σ ω')}
    (answered : Answered known values values' (run.run state) (run'.run state'))
    (goes : ∀ {value value' state state'},
      known state state' (value :: values) (value' :: values') →
        FedAlike known ((go (.ok value)).run state) ((go' (.ok value')).run state'))
    (fails : ∀ {failure state state'}, known state state' values values' →
      FedAlike known ((go (.error failure)).run state) ((go' (.error failure)).run state')) :
    FedAlike known ((run >>= go).run state) ((run' >>= go').run state') := by
  simp only [StateT.run_bind]
  simp only [Bind.bind]
  revert answered
  rcases run.run state with ⟨answer, after⟩
  rcases run'.run state' with ⟨answer', after'⟩
  intro answered
  cases answer <;> cases answer' <;> try exact answered.elim
  · rcases answered with ⟨rfl, knows⟩
    exact fails knows
  · exact goes answered

theorem answered_eq {related : s → t → Prop} {values : List ω} {run : StateM s (Except ε ω)}
    {run' : StateM t (Except ε ω)} (agrees : Agrees related run run')
    (states : related state state') :
    Answered (fun state state' values values' => related state state' ∧
      values = values') values values
      (run.run state) (run'.run state') := by
  rcases agrees.run _ _ states with ⟨same, states⟩
  revert same states
  rcases run.run state with ⟨answer, after⟩
  rcases run'.run state' with ⟨answer', after'⟩
  rintro rfl states
  cases answer
  · exact ⟨rfl, states, rfl⟩
  · exact ⟨states, rfl⟩

/-- Effects that agree simulate one another where the very same values lie on both stacks. -/
theorem Effects.Agree.simulate {related : s → t → Prop} {alike : Rule → Rule → Prop}
    {first : Effects (StateM s) σ ω ε} {second : Effects (StateM t) σ ω ε}
    (agree : first.Agree related alike second) :
    first.Simulate (fun state state' values values' => related state state' ∧
      values = values') alike
      second where
  stop states := And.imp_left fun knows => ((agree.stop states).run _ _ knows).2
  trace states _ _ actions := And.imp_left fun knows =>
    ((agree.trace states _ _ actions).run _ _ knows).2
  shift := by
    rintro state state' values _ ⟨states, rfl⟩
    exact answered_eq agree.shift states
  forget := And.imp_right fun same => (List.cons.inj same).2
  reduce := by
    rintro state state' values _ rule rule' rules ⟨states, rfl⟩
    exact answered_eq (agree.reduce _ rules) states
  fault := agree.fault

/-- Parses that have done the same with the very same values have the same outcome and the same
stack. -/
theorem FedAlike.agrees {related : s → t → Prop} {fed : (Outcome ω ε × Stack σ ω) × s}
    {fed' : (Outcome ω ε × Stack σ ω) × t}
    (same : FedAlike (fun state state' values values' => related state state' ∧
      values = values') fed
      fed') : fed.1 = fed'.1 ∧ related fed.2 fed'.2 := by
  rcases fed with ⟨⟨outcome, states, values⟩, after⟩
  rcases fed' with ⟨⟨outcome', states', values'⟩, after'⟩
  rcases same with ⟨outcomes, rfl, knows, rfl⟩
  refine ⟨?_, knows⟩
  cases outcome <;> cases outcome' <;> try exact outcomes.elim
  case finished.finished value value' =>
    rw [Option.some.inj (outcomes.1.symm.trans outcomes.2)]
  all_goals simp_all [Outcome.Alike]

end Answers

namespace Table

namespace Alike

variable {σ : Type} {alike : Rule → Rule → Prop} {first second : Table σ}

/-- Rules that are alike in one way may be alike in another. -/
theorem imp {alike' : Rule → Rule → Prop} (tables : first.Alike alike second)
    (within : ∀ {rule rule'}, alike rule rule' → alike' rule rule') :
    first.Alike alike' second where
  rows := tables.rows.imp fun _ _ rows => ⟨rows.1, rows.2.imp fun entry entry' entries => by
    rcases entry with ⟨symbol, action⟩
    rcases entry' with ⟨symbol', action'⟩
    refine ⟨entries.1, ?_⟩
    cases action with
    | shift target =>
        cases action' with
        | shift target' => exact entries.2
        | reduce rule' => exact entries.2.elim
    | reduce rule =>
        cases action' with
        | shift target' => exact entries.2.elim
        | reduce rule' => exact within entries.2⟩
  starts := tables.starts
  ends := tables.ends

theorem refl (table : Table σ) (self : ∀ rule, alike rule rule) : table.Alike alike table where
  rows := List.forall₂_same.mpr fun row _ =>
    ⟨rfl, List.forall₂_same.mpr fun entry _ => ⟨rfl, by
    cases entry.2 with
    | shift target => rfl
    | reduce rule => exact self rule⟩⟩
  starts := rfl
  ends := rfl

variable [DecidableEq σ]

/-- The top of a stack has a row in both tables or in none. -/
theorem topRow (tables : first.Alike alike second) (states : List σ) :
    (∃ fault, first.topRow states = .error fault ∧ second.topRow states = .error fault) ∨
      ∃ row row', first.topRow states = .ok row ∧ second.topRow states = .ok row' ∧
        Row.Alike alike row row' := by
  cases states with
  | nil => exact .inl ⟨_, rfl, rfl⟩
  | cons state below =>
      have found := assoc?_alike tables.rows state
      simp only [Table.topRow, Table.row?]
      revert found
      generalize assoc? first.rows state = row
      generalize assoc? second.rows state = row'
      intro found
      cases found with
      | none => exact .inl ⟨_, rfl, rfl⟩
      | some rows => exact .inr ⟨_, _, rfl, rfl, rows⟩

/-- The moves on a token are alike. -/
theorem move (tables : first.Alike alike second) (states : List σ) (kind : String) :
    (first.move states kind).Alike alike (second.move states kind) := by
  rcases tables.topRow states with ⟨fault, read, read'⟩ | ⟨row, row', read, read', rows⟩
  · simp [Table.move, read, read', Move.Alike]
  · have found := assoc?_alike rows kind
    simp only [Table.move, read, read']
    revert found
    generalize assoc? row kind = entry
    generalize assoc? row' kind = entry'
    intro found
    cases found with
    | none => simp [Move.Alike, expected, keys_alike rows]
    | @some action action' actions =>
        cases action <;> cases action' <;> exact actions

/-- A nonterminal leads to the same state in both tables. -/
theorem target (tables : first.Alike alike second) (states : List σ) (origin : String) :
    first.target states origin = second.target states origin := by
  rcases tables.topRow states with ⟨fault, read, read'⟩ | ⟨row, row', read, read', rows⟩
  · simp [Table.target, read, read', bind, Except.bind]
  · have found := assoc?_alike rows origin
    simp only [Table.target, read, read', bind, Except.bind]
    revert found
    generalize assoc? row origin = entry
    generalize assoc? row' origin = entry'
    intro found
    cases found with
    | none => rfl
    | @some action action' actions =>
        cases action with
        | shift target =>
            cases action' with
            | shift target' => rw [show target = target' from actions]
            | reduce rule' => cases actions
        | reduce rule =>
            cases action' with
            | shift target' => cases actions
            | reduce rule' => rfl

end Alike

section Simulation

variable {σ ω ω' ε : Type} [DecidableEq σ] {alike : Rule → Rule → Prop}
  {first second : Table σ} {known : s → t → List ω → List ω' → Prop}

/-- Parses on alike tables with effects that simulate one another do the same about a token.
Induction on the number of steps, each of which keeps what is known. -/
theorem feed_simulates (tables : first.Alike alike second)
    (sized : ∀ {rule rule' : Rule}, alike rule rule' →
      rule.origin = rule'.origin ∧ rule.expansion.length = rule'.expansion.length)
    {effects : Effects (StateM s) σ ω ε} {effects' : Effects (StateM t) σ ω' ε}
    (simulate : effects.Simulate known alike effects') (kind : String) (accepting : Option σ)
    (fuel : Nat) : ∀ {state : s} {state' : t} {stack : Stack σ ω} {stack' : Stack σ ω'},
      stack.states = stack'.states → known state state' stack.values stack'.values →
        FedAlike known ((first.feed effects kind accepting fuel stack).run state)
          ((second.feed effects' kind accepting fuel stack').run state') := by
  induction fuel with
  | zero => exact fun states knows => ⟨trivial, states, knows⟩
  | succ fuel ih =>
      intro state state' stack stack' states knows
      have moves := tables.move stack.states kind
      simp only [feed, ← states]
      revert moves
      generalize first.move stack.states kind = move
      generalize second.move stack.states kind = move'
      intro moves
      cases move <;> cases move' <;> try exact moves.elim
      case lost.lost fault fault' =>
        rcases (show fault = fault' from moves) with rfl
        exact ⟨congrFun simulate.fault fault, states, knows⟩
      case rejected.rejected expected expected' =>
        exact ⟨moves, states, simulate.stop _ knows⟩
      case shift.shift target target' =>
        rcases (show target = target' from moves) with rfl
        have traced := simulate.trace stack.states (show Action.Alike alike (.shift target)
          (.shift target) from rfl) knows
        rw [run_seq, run_seq]
        split
        · exact ⟨congrFun simulate.fault _, states, traced⟩
        · exact .bind (simulate.shift traced) (fun knows => ⟨trivial, rfl, knows⟩)
            fun knows => ⟨rfl, rfl, knows⟩
      case reduce.reduce rule rule' =>
        rcases sized moves with ⟨origins, lengths⟩
        have traced := simulate.trace stack.states (show Action.Alike alike (.reduce rule)
          (.reduce rule') from moves) knows
        simp only [← lengths, ← origins, push, ← tables.target, ← simulate.fault]
        rw [run_seq, run_seq]
        refine .bind (simulate.reduce moves traced) ?_ ?_
        · intro value value' after after' knows
          cases first.target (stack.states.drop rule.expansion.length) rule.origin with
          | error fault => exact ⟨rfl, rfl, simulate.forget knows⟩
          | ok target =>
              dsimp only
              split
              · exact ⟨⟨rfl, rfl⟩, rfl, knows⟩
              · exact ih rfl knows
        · exact fun knows => ⟨rfl, rfl, knows⟩

end Simulation

variable {σ ω ε : Type} [DecidableEq σ] {alike : Rule → Rule → Prop}
  {first second : Table σ} {related : s → t → Prop}

/-- Parses on alike tables with effects that agree do the same about a token. -/
theorem feed_agrees (tables : first.Alike alike second)
    (sized : ∀ {rule rule' : Rule}, alike rule rule' →
      rule.origin = rule'.origin ∧ rule.expansion.length = rule'.expansion.length)
    {effects : Effects (StateM s) σ ω ε} {effects' : Effects (StateM t) σ ω ε}
    (agree : effects.Agree related alike effects') (kind : String) (accepting : Option σ)
    (fuel : Nat) (stack : Stack σ ω) :
    Agrees related (first.feed effects kind accepting fuel stack)
      (second.feed effects' kind accepting fuel stack) := by
  constructor
  intro state state' states
  have fed := feed_simulates tables sized agree.simulate kind accepting fuel
    (show stack.states = stack.states from rfl)
    (show related state state' ∧ stack.values = stack.values from ⟨states, rfl⟩)
  exact fed.agrees

/-- Parses on alike tables with effects that agree do the same about a whole input. -/
theorem feedAll_agrees (tables : first.Alike alike second)
    (sized : ∀ {rule rule' : Rule}, alike rule rule' →
      rule.origin = rule'.origin ∧ rule.expansion.length = rule'.expansion.length)
    {effects : Token → Effects (StateM s) σ ω ε}
    {effects' : Token → Effects (StateM t) σ ω ε}
    (agree : ∀ token, (effects token).Agree related alike (effects' token))
    (granted : Nat → Nat) (ending : σ) (last : Token) (tokens : List Token) :
    ∀ stack : Stack σ ω,
      Agrees related (first.feedAll effects granted ending last tokens stack)
        (second.feedAll effects' granted ending last tokens stack) := by
  induction tokens with
  | nil => exact fun stack => feed_agrees tables sized (agree last) ..
  | cons token tokens ih =>
      intro stack
      refine .bind (feed_agrees tables sized (agree token) ..) fun (outcome, next) => ?_
      cases outcome with
      | shifted => exact ih next
      | finished | rejected | failed | endless => exact .pure _

end Table

end Lalr
