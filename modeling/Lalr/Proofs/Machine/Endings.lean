import Lalr.Proofs.Machine.Termination
import Lalr.Proofs.Parser.Balance

/-!
# How feeding ends

Feeding a token makes reductions until one of a few things happens: there is no move,
the token is rejected or shifted, a callback fails, or the parse is finished. The
states at that point are those that the reductions by themselves lead to, whatever
the effects of the parse are.
-/

namespace Lalr.Table

variable {σ ω ε w : Type} [DecidableEq σ] {table : Table σ} {kind : String}
  {ending : Option σ} {effects : Effects (StateM w) σ ω ε}

/-- What feeding a token comes to where no reduction follows on some states that have been met, with
the states that are left. -/
inductive Closes (table : Table σ) (effects : Effects (StateM w) σ ω ε) (kind : String)
    (ending : Option σ) (spoils : Prop) (met : List σ) : Outcome ω ε → List σ → Prop
  | lost {fault : Fault} (move : table.move met kind = .lost fault) :
      Closes table effects kind ending spoils met (.failed (effects.fault fault)) met
  | rejected {expected : List String} (move : table.move met kind = .rejected expected) :
      Closes table effects kind ending spoils met (.rejected expected) met
  | barred {target : σ} (move : table.move met kind = .shift target) (ends : ending.isSome) :
      Closes table effects kind ending spoils met (.failed (effects.fault .brokenPromise)) met
  | shifted {target : σ} (move : table.move met kind = .shift target) (going : ending = none) :
      Closes table effects kind ending spoils met .shifted (target :: met)
  | spoilt {target : σ} {failure : ε} (move : table.move met kind = .shift target)
      (going : ending = none) (isSpoilt : spoils) :
      Closes table effects kind ending spoils met (.failed failure) (target :: met)
  | raised {rule : Rule} {failure : ε} {values : List ω} {before after : w}
      (move : table.move met kind = .reduce rule)
      (reduced : (effects.reduce rule values).run before = (.error failure, after)) :
      Closes table effects kind ending spoils met (.failed failure)
        (met.drop rule.expansion.length)
  | stranded {rule : Rule} {fault : Fault} (move : table.move met kind = .reduce rule)
      (missing : table.target (met.drop rule.expansion.length) rule.origin = .error fault) :
      Closes table effects kind ending spoils met (.failed (effects.fault fault))
        (met.drop rule.expansion.length)
  | finished {rule : Rule} {target : σ} {value : ω} (move : table.move met kind = .reduce rule)
      (found : table.target (met.drop rule.expansion.length) rule.origin = .ok target)
      (ends : some target = ending) :
      Closes table effects kind ending spoils met (.finished value)
        (target :: met.drop rule.expansion.length)

theorem Closes.imp {spoils spoils' : Prop} {met states : List σ} {outcome : Outcome ω ε}
    (closes : table.Closes effects kind ending spoils met outcome states)
    (within : spoils → spoils') :
    table.Closes effects kind ending spoils' met outcome states := by
  cases closes with
  | lost move => exact .lost move
  | rejected move => exact .rejected move
  | barred move ends => exact .barred move ends
  | shifted move going => exact .shifted move going
  | spoilt move going isSpoilt => exact .spoilt move going (within isSpoilt)
  | raised move reduced => exact .raised move reduced
  | stranded move missing => exact .stranded move missing
  | finished move found ends => exact .finished move found ends

theorem feed_of_stranded {fuel : Nat} {stack : Stack σ ω} {rule : Rule} {fault : Fault}
    (move : table.move stack.states kind = .reduce rule)
    (missing : table.target (stack.states.drop rule.expansion.length) rule.origin = .error fault) :
    table.feed effects kind ending (fuel + 1) stack = (do
      effects.trace stack.states (some (.reduce rule))
      match ← effects.reduce rule (stack.values.take rule.expansion.length).reverse with
      | .error failure => return (.failed failure, below rule stack)
      | .ok _ => return (.failed (effects.fault fault), below rule stack)) := by
  rewrite [feed, move]
  refine bind_congr fun _ => bind_congr fun answer => ?_
  cases answer with
  | error failure => rfl
  | ok value => simp only [push, missing, below]

/-- Feeding a token follows the reductions of the states. It ends where no reduction goes on, or
where as many have been made as it is granted. -/
theorem feed_closes (effects : Effects (StateM w) σ ω ε) (kind : String) (ending : Option σ)
    (fuel : Nat) : ∀ (stack : Stack σ ω) (state : w),
    ∃ count met, table.rounds kind ending count stack.states = some met ∧
      ((((table.feed effects kind ending fuel stack).run state).1.1 = .endless ∧ count = fuel ∧
          ((table.feed effects kind ending fuel stack).run state).1.2.states = met) ∨
        (((table.feed effects kind ending fuel stack).run state).1.1 ≠ .endless ∧
          table.Closes effects kind ending (table.Spoils effects kind fuel stack state) met
            ((table.feed effects kind ending fuel stack).run state).1.1
            ((table.feed effects kind ending fuel stack).run state).1.2.states)) := by
  induction fuel with
  | zero => exact fun stack state => ⟨0, stack.states, rfl, .inl ⟨rfl, rfl, rfl⟩⟩
  | succ fuel ih =>
      intro stack state
      cases move : table.move stack.states kind with
      | lost fault =>
          rw [feed_of_lost effects move]
          exact ⟨0, _, rfl, .inr ⟨by rintro ⟨⟩, .lost move⟩⟩
      | rejected expected =>
          rw [feed_of_rejected effects move]
          exact ⟨0, _, rfl, .inr ⟨by rintro ⟨⟩, .rejected move⟩⟩
      | shift target =>
          cases ending with
          | some ended =>
              rw [feed_of_shift_end effects move rfl]
              exact ⟨0, _, rfl, .inr ⟨by rintro ⟨⟩, .barred move rfl⟩⟩
          | none =>
              rw [feed_of_shift effects move rfl]
              simp only [StateT.run_bind]
              simp only [bind]
              rcases shifted : StateT.run effects.shift
                (StateT.run (effects.trace stack.states (some (.shift target))) state).2
                with ⟨_ | _, after⟩
              · exact ⟨0, _, rfl,
                  .inr ⟨by rintro ⟨⟩, .spoilt move rfl (.shift move shifted)⟩⟩
              · exact ⟨0, _, rfl, .inr ⟨by rintro ⟨⟩, .shifted move rfl⟩⟩
      | reduce rule =>
          cases found : table.target (stack.states.drop rule.expansion.length) rule.origin with
          | error fault =>
              rw [feed_of_stranded move found]
              simp only [StateT.run_bind]
              simp only [bind]
              rcases reduced : StateT.run
                (effects.reduce rule (stack.values.take rule.expansion.length).reverse)
                (StateT.run (effects.trace stack.states (some (.reduce rule))) state).2
                with ⟨_ | _, after⟩
              · exact ⟨0, _, rfl, .inr ⟨by rintro ⟨⟩, .raised move reduced⟩⟩
              · exact ⟨0, _, rfl, .inr ⟨by rintro ⟨⟩, .stranded move found⟩⟩
          | ok target =>
              rw [feed_of_reduce effects move found]
              simp only [StateT.run_bind]
              simp only [bind]
              rcases reduced : StateT.run
                (effects.reduce rule (stack.values.take rule.expansion.length).reverse)
                (StateT.run (effects.trace stack.states (some (.reduce rule))) state).2
                with ⟨_ | value, after⟩
              · exact ⟨0, _, rfl, .inr ⟨by rintro ⟨⟩, .raised move reduced⟩⟩
              · dsimp only
                by_cases ended : (ending.isSome && some target == ending) = true
                · simp only [ended, if_true]
                  exact ⟨0, _, rfl,
                    .inr ⟨by rintro ⟨⟩, .finished move found (ended_iff.mp ended)⟩⟩
                · have step := round?_eq_some_iff.mpr
                    ⟨rule, target, move, found, mt ended_iff.mpr ended, rfl⟩
                  simp only [ended]
                  rcases ih
                      { states := target :: (below rule stack).states
                        values := value :: (below rule stack).values } after with
                    ⟨count, met, reached, ends⟩
                  refine ⟨count + 1, met, ?_, ?_⟩
                  · rw [rounds, step]
                    exact reached
                  · rcases ends with ⟨endless, all, left⟩ | ⟨ended, closes⟩
                    · exact .inl ⟨endless, by rw [all], left⟩
                    · exact .inr ⟨ended, closes.imp (.reduce move found reduced)⟩

/-- Feeding a token that ends with some number of reductions granted does the same with more. -/
theorem feed_more (fuel more : Nat) : ∀ (stack : Stack σ ω) (state : w),
    ((table.feed effects kind ending fuel stack).run state).1.1 ≠ .endless →
      (table.feed effects kind ending (fuel + more) stack).run state =
        (table.feed effects kind ending fuel stack).run state := by
  induction fuel with
  | zero => exact fun _ _ ends => absurd rfl ends
  | succ fuel ih =>
      intro stack state
      rw [Nat.succ_add]
      cases move : table.move stack.states kind with
      | lost fault => exact fun _ => by rw [feed_of_lost effects move, feed_of_lost effects move]
      | rejected expected =>
          exact fun _ => by rw [feed_of_rejected effects move, feed_of_rejected effects move]
      | shift target =>
          cases ending with
          | some ended =>
              exact fun _ => by
                rw [feed_of_shift_end effects move rfl, feed_of_shift_end effects move rfl]
          | none =>
              exact fun _ => by rw [feed_of_shift effects move rfl, feed_of_shift effects move rfl]
      | reduce rule =>
          cases found : table.target (stack.states.drop rule.expansion.length) rule.origin with
          | error fault =>
              exact fun _ => by rw [feed_of_stranded move found, feed_of_stranded move found]
          | ok target =>
              rw [feed_of_reduce effects move found, feed_of_reduce effects move found]
              simp only [StateT.run_bind]
              simp only [bind]
              rcases StateT.run
                (effects.reduce rule (stack.values.take rule.expansion.length).reverse)
                (StateT.run (effects.trace stack.states (some (.reduce rule))) state).2
                with ⟨_ | value, after⟩
              · exact fun _ => rfl
              · dsimp only
                split
                · exact fun _ => rfl
                · exact ih _ after

/-- Unless the reductions never end, a parse that is granted enough of them does not run out of
them, and what it does about the token does not depend on how many it is granted. -/
theorem feed_of_not_diverges (effects : Effects (StateM w) σ ω ε)
    {stack : Stack σ ω} {fuel : Nat} (state : w)
    (ends : ¬table.Diverges kind ending stack.states)
    (enough : ¬(table.rounds kind ending fuel stack.states).isSome) :
    ((table.feed effects kind ending fuel stack).run state).1.1 ≠ .endless ∧
      (table.feed effects kind ending fuel stack).run state =
        (table.feed effects kind ending (table.reductionBound stack.states.length) stack).run
          state := by
  have settles {granted : Nat} (enough : ¬(table.rounds kind ending granted stack.states).isSome) :
      ((table.feed effects kind ending granted stack).run state).1.1 ≠ .endless := by
    rcases feed_closes effects kind ending granted stack state with
      ⟨count, met, reached, ⟨endless, rfl, _⟩ | ⟨ended, _⟩⟩
    · exact absurd (Option.isSome_iff_exists.mpr ⟨met, reached⟩) enough
    · exact ended
  have granted := settles (mt diverges_of_reductionBound ends)
  refine ⟨settles enough, ?_⟩
  rcases Nat.le_total fuel (table.reductionBound stack.states.length) with least | most
  · rcases Nat.exists_eq_add_of_le least with ⟨more, same⟩
    rw [same, feed_more fuel more stack state (settles enough)]
  · rcases Nat.exists_eq_add_of_le most with ⟨more, same⟩
    rw [same, feed_more _ more stack state granted]

omit [DecidableEq σ] in
theorem listing_trace (states : List σ) (action : Option (Action σ)) (state : w)
    (rules : List Rule) : (effects.listing.trace states action).run (state, rules) =
      ((), ((effects.trace states action).run state).2, rules) := rfl

omit [DecidableEq σ] in
theorem listing_shift (state : w) (rules : List Rule) :
    effects.listing.shift.run (state, rules) =
      ((effects.shift.run state).1, (effects.shift.run state).2, rules) := rfl

omit [DecidableEq σ] in
theorem listing_reduce (rule : Rule) (values : List ω) (state : w) (rules : List Rule) :
    (effects.listing.reduce rule values).run (state, rules) =
      (((effects.reduce rule values).run state).1, ((effects.reduce rule values).run state).2,
        rule :: rules) := rfl

/-- All reductions but the last, which may fail or end the parse, are reductions of the states. -/
theorem rounds_of_listed (effects : Effects (StateM w) σ ω ε) (fuel : Nat) :
    ∀ (count : Nat) (stack : Stack σ ω) (state : w) (rules : List Rule), rules.length + count <
        ((table.feed effects.listing kind ending fuel stack).run (state, rules)).2.2.length →
      (table.rounds kind ending count stack.states).isSome := by
  induction fuel with
  | zero =>
      intro count stack state rules listed
      exact absurd (show rules.length + count < rules.length from listed) (by omega)
  | succ fuel ih =>
      intro count stack state rules
      cases move : table.move stack.states kind with
      | lost fault =>
          rw [feed_of_lost effects.listing move]
          exact fun listed => absurd (show rules.length + count < rules.length from listed)
            (by omega)
      | rejected expected =>
          rw [feed_of_rejected effects.listing move]
          exact fun listed => absurd (show rules.length + count < rules.length from listed)
            (by omega)
      | shift target =>
          cases ending with
          | some ended =>
              rw [feed_of_shift_end effects.listing move rfl]
              exact fun listed => absurd (show rules.length + count < rules.length from listed)
                (by omega)
          | none =>
              rw [feed_of_shift effects.listing move rfl]
              simp only [StateT.run_bind, listing_trace]
              simp only [bind, listing_shift]
              intro listed
              split at listed <;>
                exact absurd (show rules.length + count < rules.length from listed) (by omega)
      | reduce rule =>
          cases found : table.target (stack.states.drop rule.expansion.length) rule.origin with
          | error fault =>
              rw [feed_of_stranded move found]
              simp only [StateT.run_bind, listing_trace]
              simp only [bind, listing_reduce]
              intro listed
              split at listed
              all_goals
                have few : rules.length + count < rules.length + 1 := listed
                rcases (show count = 0 by omega) with rfl
                rfl
          | ok target =>
              rw [feed_of_reduce effects.listing move found]
              simp only [StateT.run_bind, listing_trace]
              simp only [bind, listing_reduce]
              intro listed
              split at listed
              · have few : rules.length + count < rules.length + 1 := listed
                rcases (show count = 0 by omega) with rfl
                rfl
              · by_cases ended : (ending.isSome && some target == ending) = true
                · simp only [ended, if_true] at listed
                  have few : rules.length + count < rules.length + 1 := listed
                  rcases (show count = 0 by omega) with rfl
                  rfl
                · have step := round?_eq_some_iff.mpr
                    ⟨rule, target, move, found, mt ended_iff.mpr ended, rfl⟩
                  cases count with
                  | zero => rfl
                  | succ count =>
                      rw [rounds, step]
                      simp only [ended] at listed
                      exact ih count _ _ (rule :: rules) (by
                        rw [List.length_cons, Nat.add_assoc, Nat.add_comm 1]
                        exact listed)

end Lalr.Table
