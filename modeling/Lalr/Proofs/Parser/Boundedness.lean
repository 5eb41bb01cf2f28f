import Lalr.Proofs.Machine.Endings
import Lalr.Proofs.Machine.Sizes

/-!
# Bounded reductions

A session keeps a path of its table, and the symbols of this path derive the tokens
that have been shifted. Each reduction makes the derivations on the stack larger by
a rule, while the number of tokens bounds how large they can be. Feeding a token
therefore comes to an end, and the tokens that have been shifted so far say how many
reductions it may take.
-/

namespace Lalr

open Relation

variable {σ ω ε w : Type} [DecidableEq σ] {table : Table σ} {starting : σ}

namespace Table

/-- Derivations of at most some number of tokens, whose symbols lead to the states of a stack. -/
structure Derived (table : Table σ) (starting : σ) (tokens : Nat) (states : List σ)
    (parts : List Derivation) : Prop where
  path : table.Path starting states (parts.map Derivation.name)
  valid : ∀ part ∈ parts, part.Valid table.HasRule
  few : (Derivation.leavesOf parts).length ≤ tokens

namespace Derived

variable {kind : String} {ending : Option σ} {tokens count : Nat} {states after : List σ}
  {parts : List Derivation}

/-- A reduction puts a rule above the derivations of its symbols. -/
theorem reduce (derived : table.Derived starting tokens states parts)
    (coherent : table.Coherent starting) {rule : Rule}
    (move : table.move states kind = .reduce rule) :
    ∃ (target : σ) (left parts' : List Derivation),
      table.target (states.drop rule.expansion.length) rule.origin = .ok target ∧
        table.Derived starting tokens (states.drop rule.expansion.length) left ∧
        table.Derived starting tokens (target :: states.drop rule.expansion.length) parts' ∧
        (Derivation.rulesOf parts').length = (Derivation.rulesOf parts).length + 1 := by
  have tracked : Tracked table starting (fun (_ : Unit) (_ : List Unit) _ => True) ()
      ⟨states, []⟩ parts := ⟨derived.path, derived.valid, trivial⟩
  rcases Tracks.exists_reduction coherent tracked move with
    ⟨target, handle, rest, rfl, length, names, found, path⟩
  have few := derived.few
  simp only [Derivation.leavesOf_append, List.length_append] at few
  have left := derived.path.drop rule.expansion.length (by simp [← length])
  rw [List.map_append, List.drop_left' (by simp [← length])] at left
  refine ⟨target, rest, .node rule handle :: rest, found,
    ⟨left, fun part member => derived.valid part (by simp [member]), by omega⟩,
    ⟨path, ?_, ?_⟩, ?_⟩
  · intro part member
    rcases List.mem_cons.mp member with rfl | member
    · exact .node (hasRule_of_move move) names fun part member =>
        derived.valid part (by simp [member])
    · exact derived.valid part (by simp [member])
  · simp only [Derivation.leavesOf, Derivation.leaves, List.length_append]
    rwa [Derivation.length_leavesOf_reverse] at few
  · simp only [Derivation.rulesOf, Derivation.rules, Derivation.rulesOf_append, List.length_append,
      List.length_singleton]
    rw [Derivation.length_rulesOf_reverse]
    omega

/-- A token that is shifted is one more to be derived. -/
theorem shift (derived : table.Derived starting tokens states parts) {target : σ} (token : Token)
    (move : table.move states token.kind = .shift target) :
    table.Derived starting (tokens + 1) (target :: states) (.leaf token :: parts) where
  path := by
    rcases move_eq_shift move with ⟨top, found, moves⟩
    exact derived.path.extend found moves
  valid := by
    intro part member
    rcases List.mem_cons.mp member with rfl | member
    · exact .leaf token
    · exact derived.valid part member
  few := by
    have few := derived.few
    simp only [Derivation.leavesOf, Derivation.leaves, List.length_append, List.length_singleton]
    omega

theorem mono {more : Nat} (derived : table.Derived starting tokens states parts)
    (most : tokens ≤ more) : table.Derived starting more states parts :=
  ⟨derived.path, derived.valid, Nat.le_trans derived.few most⟩

/-- The reductions of the states are rules of the derivations. -/
theorem rounds (coherent : table.Coherent starting) :
    ∀ {count : Nat} {states : List σ} {parts : List Derivation},
      table.Derived starting tokens states parts →
        table.rounds kind ending count states = some after →
          ∃ parts', table.Derived starting tokens after parts' ∧
            (Derivation.rulesOf parts').length = (Derivation.rulesOf parts).length + count := by
  intro count
  induction count with
  | zero =>
      intro states parts derived reached
      rcases Option.some.inj reached with rfl
      exact ⟨parts, derived, rfl⟩
  | succ count ih =>
      intro states parts derived reached
      rcases Option.bind_eq_some_iff.mp reached with ⟨next, step, reached⟩
      rcases round?_eq_some_iff.mp step with ⟨rule, target, move, found, _, rfl⟩
      rcases derived.reduce coherent move with ⟨target', _, grown, found', _, derived', length⟩
      rcases (show target' = target from Except.ok.inj (found'.symm.trans found)) with rfl
      rcases ih derived' reached with ⟨parts', derived', length'⟩
      exact ⟨parts', derived', by omega⟩

/-- The tokens below a stack bound the reductions that can be made on it. -/
theorem count_le (derived : table.Derived starting tokens states parts)
    (coherent : table.Coherent starting)
    (acyclic : ∀ name, ¬TransGen table.Expands [name] [name])
    (skipless : ∀ state, ¬TransGen table.Skips state state)
    (goes : (table.rounds kind ending count states).isSome) :
    count ≤ table.parseBound tokens := by
  rcases Option.isSome_iff_exists.mp goes with ⟨after, reached⟩
  rcases derived.rounds coherent reached with ⟨parts', derived', length⟩
  have bound := Derivation.rulesOf_length_le_parseBound acyclic skipless derived'.path
    derived'.valid
  have most := table.parseBound_mono derived'.few
  omega

/-- What is left of a stack once a token has been fed has derivations as well, of one token more if
the token has been shifted. -/
theorem closes {effects : Effects (StateM w) σ ω ε} {spoils : Prop}
    {met : List σ} {token : Token} {outcome : Outcome ω ε}
    (derived : table.Derived starting tokens met parts) (coherent : table.Coherent starting)
    (closes : table.Closes effects token.kind ending spoils met outcome after) :
    ∃ parts', table.Derived starting (tokens + 1) after parts' ∧
      (ending = none ∧ (outcome = .shifted ∨ spoils) ∨
        table.Derived starting tokens after parts') := by
  have kept {after : List σ} {parts : List Derivation}
      (derived : table.Derived starting tokens after parts) :
      ∃ parts', table.Derived starting (tokens + 1) after parts' ∧
        (ending = none ∧ (outcome = .shifted ∨ spoils) ∨
          table.Derived starting tokens after parts') :=
    ⟨parts, derived.mono (Nat.le_succ _), .inr derived⟩
  cases closes with
  | lost move => exact kept derived
  | rejected move => exact kept derived
  | barred move ends => exact kept derived
  | shifted move going => exact ⟨_, derived.shift token move, .inl ⟨going, .inl rfl⟩⟩
  | spoilt move going isSpoilt =>
      exact ⟨_, derived.shift token move, .inl ⟨going, .inr isSpoilt⟩⟩
  | raised move reduced =>
      rcases derived.reduce coherent move with ⟨_, _, _, _, left, _⟩
      exact kept left
  | stranded move missing =>
      rcases derived.reduce coherent move with ⟨_, _, _, _, left, _⟩
      exact kept left
  | finished move found ends =>
      rcases derived.reduce coherent move with ⟨target, _, _, found', _, derived', _⟩
      rcases Except.ok.inj (found'.symm.trans found) with rfl
      exact kept derived'

end Derived

end Table

namespace Parser

variable {parser : Parser} {session : Session} {shifted : Nat}

/-- Whether a token that is fed to a session gets a state of its own, be it that its value is made
or not. -/
def Shifts (parser : Parser) (isEnd : Bool) (session : Session) (token : Token)
    (workspace : Workspace) (answer : Except Failure Value) : Prop :=
  isEnd = false ∧ ((∃ value, answer = .ok value) ∨
    parser.Spoils isEnd session token workspace)

/-- The sessions that tokens lead to from a new one, with the number of tokens that have been
shifted on the way. Failures are caught, and between two tokens a session may be copied, may move on
in its text, and may have its values changed, as long as its states stay. -/
inductive Arrives (parser : Parser) : Nat → Session → Prop
  | start {text start : Option String} {session : Session}
      (new : parser.start text start = .ok session) : Arrives parser 0 session
  | shift {shifted : Nat} {session next : Session} {token : Token} {isEnd : Bool}
      {before after : Workspace} {answer : Except Failure Value}
      (arrives : Arrives parser shifted session)
      (fed : (parser.feedAs isEnd session token).Gives before (answer, next) after)
      (shifts : parser.Shifts isEnd session token before answer) :
      Arrives parser (shifted + 1) next
  | feed {shifted : Nat} {session next : Session} {token : Token} {isEnd : Bool}
      {before after : Workspace} {answer : Except Failure Value}
      (arrives : Arrives parser shifted session)
      (fed : (parser.feedAs isEnd session token).Gives before (answer, next) after)
      (keeps : ¬parser.Shifts isEnd session token before answer) : Arrives parser shifted next
  | aside {shifted : Nat} {session next : Session} (arrives : Arrives parser shifted session)
      (states : next.stack.states = session.stack.states)
      (starting : next.starting = session.starting) (ending : next.ending = session.ending) :
      Arrives parser shifted next

/-- What feeding a token gives beside the session with its new stack. -/
theorem exists_answer (isEnd : Bool) (session : Session) (token : Token) (workspace : Workspace)
    {outcome : Outcome Value Failure} {stack : Stack State Value} {after : Workspace}
    (ran : (parser.table.feed (parser.effects token) token.kind
      (if isEnd then some session.ending else none)
      (parser.table.reductionBound session.stack.states.length) session.stack).run workspace =
        ((outcome, stack), after)) :
    ∃ answer, (parser.feedAs isEnd session token).Gives workspace
        (answer, { session with stack }) after ∧
      (outcome = .shifted → answer = .ok .nothing) := by
  unfold feedAs
  simp only [Work.gives_bind]
  cases outcome with
  | shifted => exact ⟨_, ⟨_, _, ran, rfl⟩, fun _ => rfl⟩
  | finished value => exact ⟨_, ⟨_, _, ran, rfl⟩, by rintro ⟨⟩⟩
  | rejected expected => exact ⟨_, ⟨_, _, ran, rfl⟩, by rintro ⟨⟩⟩
  | failed failure => exact ⟨_, ⟨_, _, ran, rfl⟩, by rintro ⟨⟩⟩
  | endless => exact ⟨_, ⟨_, _, ran, rfl⟩, by rintro ⟨⟩⟩

/-- A token that is fed keeps the derivations, and is one more to be derived if it is shifted. -/
theorem feedAs_derived {next : Session} {token : Token} {isEnd : Bool} {before after : Workspace}
    {answer : Except Failure Value} {parts : List Derivation}
    (derived : parser.table.Derived session.starting shifted session.stack.states parts)
    (coherent : parser.table.Coherent session.starting)
    (fed : (parser.feedAs isEnd session token).Gives before (answer, next) after) :
    ∃ parts', parser.table.Derived next.starting (shifted + 1) next.stack.states parts' ∧
      (parser.Shifts isEnd session token before answer ∨
        parser.table.Derived next.starting shifted next.stack.states parts') := by
  rcases ran : (parser.table.feed (parser.effects token) token.kind
    (if isEnd then some session.ending else none)
    (parser.table.reductionBound session.stack.states.length) session.stack).run before
    with ⟨⟨outcome, stack⟩, later⟩
  rcases exists_answer isEnd session token before ran with ⟨answer', fed', shifts⟩
  rcases fed.unique fed' with ⟨same, rfl⟩
  rcases Prod.mk.inj same with ⟨rfl, rfl⟩
  rcases parser.table.feed_closes
      (parser.effects token) token.kind (if isEnd then some session.ending else none)
      (parser.table.reductionBound session.stack.states.length) session.stack before with
    ⟨count, met, reached, ends⟩
  rcases derived.rounds coherent reached with ⟨parts', derived, _⟩
  rw [ran] at ends
  rcases ends with ⟨_, _, rfl⟩ | ⟨_, closes⟩
  · exact ⟨parts', derived.mono (Nat.le_succ _), .inr derived⟩
  · rcases derived.closes coherent closes with ⟨parts', derived', which⟩
    refine ⟨parts', derived', which.imp_left fun ⟨going, which⟩ => ?_⟩
    have isNotEnd : isEnd = false := by
      cases isEnd <;> simp_all
    exact ⟨isNotEnd, which.imp (fun isShifted => ⟨_, shifts isShifted⟩) fun spoils =>
      ⟨isNotEnd, spoils⟩⟩

/-- The states that a session arrives at derive the tokens shifted so far. -/
theorem Arrives.derived (arrives : parser.Arrives shifted session)
    (coherent : parser.table.Coherent session.starting) :
    ∃ parts, parser.table.Derived session.starting shifted session.stack.states parts := by
  induction arrives with
  | start new =>
      simp only [Parser.start, bind_eq_ok] at new
      rcases new with ⟨name, _, new⟩
      split at new
      · cases new
        exact ⟨[], .start, by simp, by simp [Derivation.leavesOf]⟩
      · cases new
  | @shift _ session next _ _ _ _ _ arrives fed shifts ih =>
      have same : next.starting = session.starting := by rw [feedAs_eq fed]
      rw [same] at coherent
      rcases ih coherent with ⟨parts, derived⟩
      rcases feedAs_derived derived coherent fed with ⟨parts', derived', _⟩
      exact ⟨parts', derived'⟩
  | @feed _ session next _ _ _ _ _ arrives fed keeps ih =>
      have same : next.starting = session.starting := by rw [feedAs_eq fed]
      rw [same] at coherent
      rcases ih coherent with ⟨parts, derived⟩
      rcases feedAs_derived derived coherent fed with ⟨parts', _, shifts | derived'⟩
      · exact absurd shifts keeps
      · exact ⟨parts', derived'⟩
  | aside arrives states starting ending ih =>
      rw [starting] at coherent ⊢
      rw [states]
      exact ih coherent

/-- Where no symbol derives itself and no state is reached again over symbols that derive the empty
text, every token that is fed to a session is done with. The number of reductions it takes is
bounded by the table and by the number of tokens shifted before it; a parse that is granted more of
them does the same, and the session itself is granted enough. -/
theorem feed_bounded (arrives : parser.Arrives shifted session)
    (coherent : parser.table.Coherent session.starting)
    (acyclic : ∀ name, ¬TransGen parser.table.Expands [name] [name])
    (skipless : ∀ state, ¬TransGen parser.table.Skips state state)
    (isEnd : Bool) (token : Token) (workspace : Workspace) :
    ∃ (outcome : Outcome Value Failure) (stack : Stack State Value) (after : Workspace)
      (rules : List Rule) (answer : Except Failure Value),
      outcome ≠ .endless ∧ rules.length ≤ parser.table.parseBound shifted + 1 ∧
      (∀ fuel, parser.table.parseBound shifted < fuel →
        (parser.table.feed (parser.effects token).listing token.kind
          (if isEnd then some session.ending else none) fuel session.stack).run (workspace, []) =
            ((outcome, stack), after, rules)) ∧
      (parser.table.feed (parser.effects token) token.kind
        (if isEnd then some session.ending else none)
        (parser.table.reductionBound session.stack.states.length) session.stack).run workspace =
          ((outcome, stack), after) ∧
      (parser.feedAs isEnd session token).Gives workspace
        (answer, { session with stack }) after := by
  rcases arrives.derived coherent with ⟨parts, derived⟩
  have few {count : Nat} (goes : (parser.table.rounds token.kind
      (if isEnd then some session.ending else none) count session.stack.states).isSome) :
      count ≤ parser.table.parseBound shifted :=
    derived.count_le coherent acyclic skipless goes
  have ends : ¬parser.table.Diverges token.kind (if isEnd then some session.ending else none)
      session.stack.states := fun endless =>
    absurd (few (endless (parser.table.parseBound shifted + 1))) (by omega)
  have settled {fuel : Nat} (more : parser.table.parseBound shifted < fuel) :=
    Table.feed_of_not_diverges (parser.effects token).listing (workspace, []) ends
      fun goes => absurd (few goes) (Nat.not_le.mpr more)
  rcases ran : (parser.table.feed (parser.effects token).listing token.kind
    (if isEnd then some session.ending else none)
    (parser.table.reductionBound session.stack.states.length) session.stack).run (workspace, [])
    with ⟨⟨outcome, stack⟩, after, rules⟩
  have agrees := (Table.feed_agrees (.refl parser.table fun _ => rfl) (fun same => by simp [same])
    (parser.effects token).listing_agree token.kind (if isEnd then some session.ending else none)
    (parser.table.reductionBound session.stack.states.length) session.stack).run (workspace, [])
      workspace rfl
  rw [ran] at agrees
  have plain : (parser.table.feed (parser.effects token) token.kind
      (if isEnd then some session.ending else none)
      (parser.table.reductionBound session.stack.states.length) session.stack).run workspace =
        ((outcome, stack), after) := Prod.ext agrees.1.symm agrees.2.symm
  rcases exists_answer isEnd session token workspace plain with ⟨answer, fed, _⟩
  refine ⟨outcome, stack, after, rules, answer, ?_, ?_, ?_, plain, fed⟩
  · have ended := (settled (Nat.lt_succ_self _)).1
    rwa [(settled (Nat.lt_succ_self _)).2, ran] at ended
  · by_contra many
    have goes := Table.rounds_of_listed (parser.effects token)
      (parser.table.reductionBound session.stack.states.length)
      (parser.table.parseBound shifted + 1) session.stack workspace []
      (by rw [ran]; simpa using many)
    exact absurd (few goes) (by omega)
  · exact fun fuel more => (settled more).2.trans ran

section Letters

/-- The session of the parser for letters whose A has been shifted. -/
def letterSession : Session where
  stack := { states := [.number 1, .number 0], values := [.token { kind := "A", text := "a" }] }
  starting := .number 0
  ending := .number 3

theorem letterParser_arrives : letterParser.Arrives 1 letterSession := by
  have new : letterParser.start none none =
      .ok { stack := { states := [.number 0], values := [] }, starting := .number 0,
            ending := .number 3 } := rfl
  have fed : (letterParser.feedAs false
      { stack := { states := [.number 0], values := [] }, starting := .number 0,
        ending := .number 3 } { kind := "A", text := "a" }).Gives {}
        (.ok .nothing, letterSession) {} := rfl
  exact .shift (.start new) fed ⟨rfl, .inl ⟨_, rfl⟩⟩

/-- How many symbols are at most derived from one. -/
def letterWeight (name : String) : Nat :=
  if name = "start" then 2 else if name = "rest" then 1 else 0

theorem letterTable_hasRule {rule : Rule} (hasRule : letterTable.HasRule rule) :
    rule ∈ letterRules := by
  rcases hasRule with ⟨state, kind, reduces⟩
  have member := Table.mem_reductions reduces
  have listed : letterTable.reductions =
    [(.number 1, letterRules[1]), (.number 2, letterRules[0])] := by rfl
  rw [listed] at member
  rcases List.mem_cons.mp member with same | member
  · exact (Prod.mk.inj same).2 ▸ by decide
  · exact (Prod.mk.inj (List.mem_singleton.mp member)).2 ▸ by decide

/-- Every rewriting makes the symbols lighter. -/
theorem letterTable_lighter {left right : List String}
    (steps : TransGen letterTable.Expands left right) :
    (right.map letterWeight).sum < (left.map letterWeight).sum := by
  have step {left right : List String} (expands : letterTable.Expands left right) :
      (right.map letterWeight).sum < (left.map letterWeight).sum := by
    cases expands with
    | @expand rule hasRule before after =>
        have lighter : ∀ rule ∈ letterRules,
            ((rule.expansion.map Symbol.name).map letterWeight).sum < letterWeight rule.origin := by
          decide
        have less := lighter rule (letterTable_hasRule hasRule)
        simp only [List.map_append, List.map_cons, List.sum_append, List.sum_cons]
        omega
  induction steps with
  | single expands => exact step expands
  | tail _ expands ih => exact (step expands).trans ih

/-- The number of a state. -/
def stateNumber : State → Int
  | .number value => value
  | _ => 0

/-- Every move leads to a state with a greater number. -/
theorem letterTable_rises {source target : State}
    (steps : TransGen letterTable.Skips source target) :
    stateNumber source < stateNumber target := by
  have step {source target : State} (skips : letterTable.Skips source target) :
      stateNumber source < stateNumber target := by
    rcases skips with ⟨symbol, moves, _⟩
    have rising : ∀ entry ∈ letterTable.entries,
        stateNumber entry.1 < stateNumber entry.2.2 := by
      decide
    exact rising _ (Table.mem_entries moves)
  induction steps with
  | single skips => exact step skips
  | tail _ skips ih => exact ih.trans (step skips)

theorem feed_bounded_letter :
    ∃ (outcome : Outcome Value Failure) (stack : Stack State Value) (rules : List Rule),
      outcome ≠ .endless ∧ rules.length ≤ letterTable.parseBound 1 + 1 ∧
      ∀ fuel, letterTable.parseBound 1 < fuel → ∃ after,
        (letterTable.feed (letterParser.effects (Token.endOfInput none)).listing Token.endKind
          (some letterSession.ending) fuel letterSession.stack).run ({}, []) =
            ((outcome, stack), after, rules) := by
  have proper : letterTable.Proper "start" (.number 0) (.number 3) :=
    Table.proper_of_isProper (by decide)
  rcases feed_bounded letterParser_arrives proper.toCoherent
      (fun _ steps => Nat.lt_irrefl _ (letterTable_lighter steps))
      (fun _ steps => Int.lt_irrefl _ (letterTable_rises steps)) true
        (Token.endOfInput none) {} with
    ⟨outcome, stack, after, rules, _, ended, few, same, _, _⟩
  exact ⟨outcome, stack, rules, ended, few, fun fuel more => ⟨_, same fuel more⟩⟩

end Letters

end Parser

end Lalr
