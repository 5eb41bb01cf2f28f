import Lalr.Machine.Feed
import Lalr.Proofs.Machine.Derivation

/-!
# Tracking a parse by derivations

Beside every stack of a parse one may keep the derivations of its symbols. They
follow from the moves alone, so that the same derivations go with the values of
every kind of effects. Whatever is known of values and derivations together and is
preserved by one shift and by one reduction is known after any number of tokens.
-/

namespace Lalr

variable {σ ω ε w : Type} [DecidableEq σ] {table : Table σ}

namespace Table

section Equations

variable {m : Type → Type} [Monad m] (effects : Effects m σ ω ε) {kind : String}
  {ending : Option σ} {fuel : Nat} {stack : Stack σ ω}

theorem feed_of_lost {fault : Fault} (move : table.move stack.states kind = .lost fault) :
    table.feed effects kind ending (fuel + 1) stack =
      pure (.failed (effects.fault fault), stack) := by
  simp only [feed, move]

theorem feed_of_rejected {expected : List String}
    (move : table.move stack.states kind = .rejected expected) :
    table.feed effects kind ending (fuel + 1) stack = (do
      effects.trace stack.states none
      return (.rejected expected, stack)) := by
  simp only [feed, move]

theorem feed_of_shift {target : σ} (move : table.move stack.states kind = .shift target)
    (going : ending = none) :
    table.feed effects kind ending (fuel + 1) stack = (do
      effects.trace stack.states (some (.shift target))
      match ← effects.shift with
      | .error failure => return (.failed failure, { stack with states := target :: stack.states })
      | .ok value =>
        return (.shifted,
          { states := target :: stack.states, values := value :: stack.values })) := by
  subst going
  rewrite [feed, move]
  rfl

theorem feed_of_shift_end {target : σ} (move : table.move stack.states kind = .shift target)
    (ends : ending.isSome) :
    table.feed effects kind ending (fuel + 1) stack = (do
      effects.trace stack.states (some (.shift target))
      return (.failed (effects.fault .brokenPromise), stack)) := by
  simp only [feed, move, ends, if_true]

/-- What is left of a stack when the symbols of a rule are taken off it. -/
def below (rule : Rule) (stack : Stack σ ω) : Stack σ ω where
  states := stack.states.drop rule.expansion.length
  values := stack.values.drop rule.expansion.length

theorem feed_of_reduce {rule : Rule} {target : σ}
    (move : table.move stack.states kind = .reduce rule)
    (found : table.target (stack.states.drop rule.expansion.length) rule.origin = .ok target) :
    table.feed effects kind ending (fuel + 1) stack = (do
      effects.trace stack.states (some (.reduce rule))
      match ← effects.reduce rule (stack.values.take rule.expansion.length).reverse with
      | .error failure => return (.failed failure, below rule stack)
      | .ok value =>
        let next : Stack σ ω :=
          { states := target :: (below rule stack).states
            values := value :: (below rule stack).values }
        if ending.isSome && some target == ending then return (.finished value, next)
        else table.feed effects kind ending fuel next) := by
  simp only [feed, move, push, found, below, List.head?_cons]
  rfl

end Equations

/-- Feeds some tokens and then one that ends the input, as long as each of them is shifted. On each
token a parse may make as many moves as are granted to a stack of its height. -/
def feedAll {m : Type → Type} [Monad m] (table : Table σ)
    (effects : Token → Effects m σ ω ε) (granted : Nat → Nat) (ending : σ) (last : Token) :
    List Token → Stack σ ω → m (Outcome ω ε × Stack σ ω)
  | [], stack =>
    table.feed (effects last) last.kind (some ending) (granted stack.states.length) stack
  | token :: tokens, stack => do
    match ← table.feed (effects token) token.kind none (granted stack.states.length) stack with
    | (.shifted, stack) => table.feedAll effects granted ending last tokens stack
    | (outcome, stack) => return (outcome, stack)

/-- Whether a table reduces by a rule anywhere. -/
def HasRule (table : Table σ) (rule : Rule) : Prop := ∃ state kind, table.Reduces state kind rule

theorem hasRule_of_move {states : List σ} {kind : String} {rule : Rule}
    (move : table.move states kind = .reduce rule) : table.HasRule rule := by
  rcases move_eq_reduce move with ⟨top, _, reduces⟩
  exact ⟨top, kind, reduces⟩

end Table

/-- The effects of a parse whose values are the derivations themselves. -/
def Derivation.effects (token : Token) : Effects Id σ Derivation Fault where
  trace _ _ := pure ()
  shift := pure (.ok (.leaf token))
  reduce rule parts := pure (.ok (.node rule parts))
  fault := id

/-- What is known of the state of some effects, of the values on a stack and of the derivations they
stand for, and is preserved by all that the effects do. -/
structure Tracks (table : Table σ) (effects : Token → Effects (StateM w) σ ω ε)
    (known : w → List ω → List Derivation → Prop) : Prop where
  trace : ∀ {token : Token} {states : List σ} {action : Option (Action σ)} {state : w}
    {values : List ω} {parts : List Derivation}, known state values parts →
      known (((effects token).trace states action).run state).2 values parts
  shift : ∀ {token : Token} {state after : w} {values : List ω} {value : ω}
    {parts : List Derivation}, known state values parts →
      (effects token).shift.run state = (.ok value, after) →
        known after (value :: values) (.leaf token :: parts)
  reduce : ∀ {token : Token} {rule : Rule} {state after : w} {values : List ω} {value : ω}
    {parts rest : List Derivation}, table.HasRule rule →
      parts.map Derivation.name = rule.expansion.map Symbol.name →
        known state values (parts.reverse ++ rest) →
          ((effects token).reduce rule (values.take rule.expansion.length).reverse).run state =
              (.ok value, after) →
            known after (value :: values.drop rule.expansion.length) (.node rule parts :: rest)

/-- What holds of a stack and the derivations of its symbols, both with their top first. -/
structure Tracked (table : Table σ) (starting : σ)
    (known : w → List ω → List Derivation → Prop) (state : w) (stack : Stack σ ω)
    (parts : List Derivation) : Prop where
  path : table.Path starting stack.states (parts.map Derivation.name)
  valid : ∀ part ∈ parts, part.Valid table.HasRule
  known : known state stack.values parts

/-- What holds after a token has been fed where some tokens have been read before: building
derivations comes to the same end, and what it builds goes with the values. -/
def Tracked.Fed (table : Table σ) (starting : σ)
    (known : w → List ω → List Derivation → Prop) (before : List Token) (token : Token)
    (ending : Option σ) (built : Outcome Derivation Fault × Stack σ Derivation) :
    (Outcome ω ε × Stack σ ω) × w → Prop
  | ((.shifted, stack), state) =>
    ∃ more, Tracked table starting known state stack more ∧
      built = (.shifted, ⟨stack.states, more⟩) ∧
      Derivation.leavesOf more.reverse = before ++ [token]
  | ((.finished value, stack), state) =>
    ∃ part more, Tracked table starting known state stack (part :: more) ∧
      stack.values.head? = some value ∧ stack.states.head? = ending ∧
      built = (.finished part, ⟨stack.states, part :: more⟩) ∧
      Derivation.leavesOf (part :: more).reverse = before
  | _ => True

namespace Tracks

variable {effects : Token → Effects (StateM w) σ ω ε}
  {known : w → List ω → List Derivation → Prop} {starting : σ}

/-- A shift keeps the derivations in step. -/
theorem tracked_shift (tracks : Tracks table effects known) {token : Token} {state after : w}
    {stack : Stack σ ω} {parts : List Derivation} {target : σ} {value : ω}
    (tracked : Tracked table starting known state stack parts)
    (move : table.move stack.states token.kind = .shift target)
    (shifted : (effects token).shift.run
      (((effects token).trace stack.states (some (.shift target))).run state).2 =
        (.ok value, after)) :
    Tracked table starting known after
      { states := target :: stack.states, values := value :: stack.values }
      (.leaf token :: parts) where
  path := by
    rcases Table.move_eq_shift move with ⟨top, found, moves⟩
    exact tracked.path.extend found moves
  valid := by
    intro part member
    rcases List.mem_cons.mp member with rfl | member
    · exact .leaf token
    · exact tracked.valid part member
  known := tracks.shift (tracks.trace tracked.known) shifted

/-- A reduction takes the derivations of the symbols of its rule off the stack and puts one of its
origin there. -/
theorem exists_reduction (coherent : table.Coherent starting) {state : w} {stack : Stack σ ω}
    {parts : List Derivation} {kind : String} {rule : Rule}
    (tracked : Tracked table starting known state stack parts)
    (move : table.move stack.states kind = .reduce rule) :
    ∃ (target : σ) (handle rest : List Derivation), parts = handle.reverse ++ rest ∧
      handle.length = rule.expansion.length ∧
      handle.map Derivation.name = rule.expansion.map Symbol.name ∧
      table.target (stack.states.drop rule.expansion.length) rule.origin = .ok target ∧
      table.Path starting (target :: stack.states.drop rule.expansion.length)
        (rule.origin :: rest.map Derivation.name) := by
  rcases coherent.reduction tracked.path move with ⟨rest, target, names, found, path⟩
  rcases List.map_eq_append_iff.mp names with ⟨handle, left, rfl, handled, rfl⟩
  have handleNames : handle.reverse.map Derivation.name = rule.expansion.map Symbol.name := by
    rw [List.map_reverse, handled, List.reverse_reverse]
  refine ⟨target, handle.reverse, left, by simp, ?_, handleNames, found, path⟩
  simpa using congrArg List.length handleNames

/-- A reduction keeps the derivations in step. -/
theorem tracked_reduce (tracks : Tracks table effects known) {token : Token} {state after : w}
    {stack : Stack σ ω} {handle rest : List Derivation} {rule : Rule} {target : σ} {value : ω}
    (tracked : Tracked table starting known state stack (handle.reverse ++ rest))
    (move : table.move stack.states token.kind = .reduce rule)
    (names : handle.map Derivation.name = rule.expansion.map Symbol.name)
    (path : table.Path starting (target :: stack.states.drop rule.expansion.length)
      (rule.origin :: rest.map Derivation.name))
    (reduced : ((effects token).reduce rule
      (stack.values.take rule.expansion.length).reverse).run
        (((effects token).trace stack.states (some (.reduce rule))).run state).2 =
          (.ok value, after)) :
    Tracked table starting known after
      { states := target :: (Table.below rule stack).states
        values := value :: (Table.below rule stack).values }
      (.node rule handle :: rest) where
  path := path
  valid := by
    intro part member
    rcases List.mem_cons.mp member with rfl | member
    · exact .node (Table.hasRule_of_move move) names fun part member =>
        tracked.valid part (by simp [member])
    · exact tracked.valid part (by simp [member])
  known :=
    tracks.reduce (Table.hasRule_of_move move) names (tracks.trace tracked.known) reduced

/-- What holds before a token is fed holds afterwards, however many reductions it takes. -/
theorem fed (tracks : Tracks table effects known) (coherent : table.Coherent starting)
    (token : Token) (ending : Option σ) (fuel : Nat) :
    ∀ {state : w} {stack : Stack σ ω} {parts : List Derivation},
      Tracked table starting known state stack parts →
        Tracked.Fed table starting known (Derivation.leavesOf parts.reverse) token ending
          (table.feed (Derivation.effects token) token.kind ending fuel ⟨stack.states, parts⟩)
          ((table.feed (effects token) token.kind ending fuel stack).run state) := by
  induction fuel with
  | zero => intros; trivial
  | succ fuel ih =>
      intro state stack parts tracked
      cases move : table.move stack.states token.kind with
      | lost fault =>
          rw [Table.feed_of_lost (effects token) move]
          trivial
      | rejected expected =>
          rw [Table.feed_of_rejected (effects token) move]
          trivial
      | shift target =>
          cases ending with
          | some state =>
              rw [Table.feed_of_shift_end (effects token) move rfl]
              trivial
          | none =>
              rw [Table.feed_of_shift (effects token) move rfl,
                Table.feed_of_shift (Derivation.effects token) move rfl]
              simp only [StateT.run_bind]
              simp only [bind]
              rcases shifted : StateT.run (effects token).shift
                (StateT.run ((effects token).trace stack.states (some (.shift target))) state).2
                with ⟨answer, after⟩
              dsimp only
              cases answer with
              | error failure => trivial
              | ok value =>
                  exact ⟨.leaf token :: parts, tracks.tracked_shift tracked move shifted, rfl,
                    by simp [Derivation.leavesOf, Derivation.leaves]⟩
      | reduce rule =>
          rcases exists_reduction coherent tracked move with
            ⟨target, handle, rest, rfl, length, names, found, path⟩
          rw [Table.feed_of_reduce (effects token) move found,
            Table.feed_of_reduce (Derivation.effects token) move found]
          simp only [StateT.run_bind]
          simp only [bind]
          rcases reduced : StateT.run
            ((effects token).reduce rule (stack.values.take rule.expansion.length).reverse)
            (StateT.run ((effects token).trace stack.states (some (.reduce rule))) state).2
            with ⟨answer, after⟩
          dsimp only
          have taken : ((handle.reverse ++ rest).take rule.expansion.length).reverse = handle := by
            simp [← length]
          have left : (handle.reverse ++ rest).drop rule.expansion.length = rest := by
            simp [← length]
          have leaves : Derivation.leavesOf ((Derivation.node rule handle :: rest).reverse) =
              Derivation.leavesOf (handle.reverse ++ rest).reverse := by
            simp [Derivation.leavesOf, Derivation.leaves]
          cases answer with
          | error failure => trivial
          | ok value =>
              have next := tracks.tracked_reduce tracked move names path reduced
              simp only [Derivation.effects, Table.below, taken, left]
              by_cases ended : (ending.isSome && some target == ending) = true
              · simp only [ended, if_true]
                refine ⟨.node rule handle, rest, next, rfl, ?_, rfl, leaves⟩
                simp_all
              · simp only [ended, leaves.symm]
                exact ih next

/-- When the end of the input has been fed, the value of the parse lies on top of the stack beside a
derivation of all the tokens. -/
theorem fedAll (tracks : Tracks table effects known) (coherent : table.Coherent starting)
    (granted : Nat → Nat) {ending : σ} {last : Token} {tokens : List Token} :
    ∀ {state after : w} {stack stack' : Stack σ ω} {parts : List Derivation} {value : ω},
      Tracked table starting known state stack parts →
        (table.feedAll effects granted ending last tokens stack).run state =
            ((.finished value, stack'), after) →
          ∃ part more, Tracked table starting known after stack' (part :: more) ∧
            stack'.values.head? = some value ∧ stack'.states.head? = some ending ∧
            table.feedAll Derivation.effects granted ending last tokens ⟨stack.states, parts⟩ =
              (.finished part, ⟨stack'.states, part :: more⟩) ∧
            Derivation.leavesOf (part :: more).reverse =
              Derivation.leavesOf parts.reverse ++ tokens := by
  induction tokens with
  | nil =>
      intro state after stack stack' parts value tracked finished
      have fed := tracks.fed coherent last (some ending) (granted stack.states.length) tracked
      simp only [Table.feedAll] at finished ⊢
      rw [finished] at fed
      rcases fed with ⟨part, more, next, top, ended, built, leaves⟩
      exact ⟨part, more, next, top, ended, built, by simpa using leaves⟩
  | cons token tokens ih =>
      intro state after stack stack' parts value tracked finished
      have fed := tracks.fed coherent token none (granted stack.states.length) tracked
      simp only [Table.feedAll, StateT.run_bind] at finished ⊢
      simp only [bind] at finished ⊢
      rcases run : StateT.run (table.feed (effects token) token.kind none
        (granted stack.states.length) stack) state with ⟨⟨outcome, next⟩, between⟩
      rw [run] at fed finished
      cases outcome with
      | shifted =>
          rcases fed with ⟨more, tracked, built, leaves⟩
          rcases ih tracked finished with ⟨part, rest, tracked, top, ended, built', leaves'⟩
          refine ⟨part, rest, tracked, top, ended, ?_, ?_⟩
          · rw [built]
            exact built'
          · rw [leaves', leaves]
            simp
      | finished value' =>
          rcases fed with ⟨part, more, tracked, _, ended, _⟩
          rcases tracked.path.exists_top with ⟨state, below, nonempty⟩
          simp [nonempty] at ended
      | rejected expected => cases finished
      | failed failure => cases finished
      | endless => cases finished

/-- When a parse with a proper table accepts its input, all that is left on the stack is a value
that goes with a derivation of the input from the start symbol. -/
theorem accepted {start : String} {ending : σ} (tracks : Tracks table effects known)
    (proper : table.Proper start starting ending) (granted : Nat → Nat) {last : Token}
    {tokens : List Token} {state after : w} {stack : Stack σ ω} {value : ω}
    (initially : known state [] [])
    (finished : (table.feedAll effects granted ending last tokens ⟨[starting], []⟩).run state =
      ((.finished value, stack), after)) :
    ∃ part : Derivation, part.Valid table.HasRule ∧ part.name = start ∧
      part.leaves = tokens ∧
      known after stack.values [part] ∧ stack.values.head? = some value ∧
      table.feedAll Derivation.effects granted ending last tokens ⟨[starting], []⟩ =
        (.finished part, ⟨stack.states, [part]⟩) := by
  have fresh : Tracked table starting known state ⟨[starting], []⟩ [] :=
    ⟨.start, by simp, initially⟩
  rcases tracks.fedAll proper.toCoherent granted fresh finished with
    ⟨part, more, tracked, top, ended, built, leaves⟩
  have names := proper.symbols_of_ending tracked.path ended (by simp)
  rcases (show part.name = start ∧ more = [] by simpa using names) with ⟨name, rfl⟩
  exact ⟨part, tracked.valid part (by simp), name,
    by simpa [Derivation.leavesOf] using leaves, tracked.known, top, built⟩

end Tracks

end Lalr
