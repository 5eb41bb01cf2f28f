import Mathlib.Data.Finset.Dedup
import Mathlib.Data.Finset.Powerset
import Mathlib.Data.Finset.Prod
import Mathlib.Data.List.Sort
import Mathlib.Logic.Relation
import Lalr.Proofs.Machine.Coherence
import Lalr.Proofs.Pairs

/-!
# When reductions end

Which reductions a token brings about is decided by the states alone. A state that
is reached again above itself, without having been taken off in between, is reached
for ever. As long as this does not happen, the states above an untouched part of the
stack come in an order in which none is repeated, so that there are no more stacks
than parts of the old one and sets of states. A parse that makes more reductions on
one token makes them for ever, whatever the table.
-/

namespace Lalr.Table

open Relation

variable {σ : Type} [DecidableEq σ] {table : Table σ} {kind : String} {ending : Option σ}

/-- The states after one more reduction on a token, if there is one and the parse goes on. -/
def round? (table : Table σ) (kind : String) (ending : Option σ) (states : List σ) :
    Option (List σ) :=
  match table.move states kind with
  | .reduce rule =>
    match table.afterReduction states rule with
    | .ok after => if ending.isSome && after.head? == ending then none else some after
    | .error _ => none
  | _ => none

/-- The states after some number of reductions on a token. -/
def rounds (table : Table σ) (kind : String) (ending : Option σ) :
    Nat → List σ → Option (List σ)
  | 0, states => some states
  | count + 1, states => (table.round? kind ending states).bind (table.rounds kind ending count)

/-- Whether the reductions on a token never end. -/
def Diverges (table : Table σ) (kind : String) (ending : Option σ) (states : List σ) : Prop :=
  ∀ count, (table.rounds kind ending count states).isSome

section Rounds

variable {states between after : List σ} {count more : Nat}

theorem ended_iff {target : σ} :
    (ending.isSome && some target == ending) = true ↔ some target = ending := by
  cases ending <;> simp

theorem round?_eq_some_iff :
    table.round? kind ending states = some after ↔
      ∃ rule target, table.move states kind = .reduce rule ∧
        table.target (states.drop rule.expansion.length) rule.origin = .ok target ∧
        some target ≠ ending ∧ after = target :: states.drop rule.expansion.length := by
  unfold round?
  cases move : table.move states kind with
  | lost fault => simp
  | rejected expected => simp
  | shift target => simp
  | reduce rule =>
      cases found : table.target (states.drop rule.expansion.length) rule.origin with
      | error fault => simp [afterReduction, found, bind, Except.bind]
      | ok target =>
          by_cases same : some target = ending
          · have stops := ended_iff.mpr same
            simp_all [afterReduction, bind, Except.bind, pure, Except.pure]
          · simp only [afterReduction, found, bind, Except.bind, pure,
              Except.pure, List.head?_cons, mt ended_iff.mp same, Bool.false_eq_true, if_false,
              Option.some.injEq, Move.reduce.injEq, exists_and_left, exists_eq_left',
              Except.ok.injEq, ne_eq, same, not_false_eq_true, true_and]
            exact eq_comm

theorem rounds_add :
    table.rounds kind ending (count + more) states =
      (table.rounds kind ending count states).bind (table.rounds kind ending more) := by
  induction count generalizing states with
  | zero => simp [rounds]
  | succ count ih =>
      rw [Nat.succ_add, rounds, rounds]
      cases table.round? kind ending states with
      | none => rfl
      | some after => exact ih

theorem rounds_one :
    table.rounds kind ending 1 states = table.round? kind ending states := by
  cases step : table.round? kind ending states <;> simp [rounds, step]

/-- Fewer reductions are possible wherever more are. -/
theorem rounds_isSome_of_le (most : count ≤ more)
    (goes : (table.rounds kind ending more states).isSome) :
    (table.rounds kind ending count states).isSome := by
  rcases Nat.exists_eq_add_of_le most with ⟨rest, rfl⟩
  rw [rounds_add] at goes
  cases read : table.rounds kind ending count states with
  | none => simp [read] at goes
  | some after => rfl

/-- Reductions that never end after some number of them never end. -/
theorem Diverges.of_rounds (reached : table.rounds kind ending count states = some after)
    (diverges : table.Diverges kind ending after) : table.Diverges kind ending states := by
  intro more
  rcases Nat.le_total more count with least | most
  · exact rounds_isSome_of_le least (by simp [reached])
  · rcases Nat.exists_eq_add_of_le most with ⟨rest, rfl⟩
    rw [rounds_add, reached]
    exact diverges rest

/-- Reductions that never end do so wherever one has followed them to. -/
theorem Diverges.rounds (diverges : table.Diverges kind ending states)
    (reached : table.rounds kind ending count states = some after) :
    table.Diverges kind ending after := by
  intro more
  have goes := diverges (count + more)
  rwa [rounds_add, reached] at goes

/-- Reductions that lead back to where they began never end. -/
theorem diverges_of_repeats (repeats : table.rounds kind ending (count + 1) states = some states) :
    table.Diverges kind ending states := by
  intro more
  induction more with
  | zero => rfl
  | succ more ih =>
      refine rounds_isSome_of_le (show more + 1 ≤ (count + 1) + more by omega) ?_
      rw [rounds_add, repeats]
      exact ih

end Rounds

section Supports

variable {base lower middle upper : σ} {above after rest : List σ}

theorem move_congr {states others : List σ} (same : states.head? = others.head?) :
    table.move states kind = table.move others kind := by
  cases states <;> cases others <;> simp_all [Table.move, topRow]

theorem target_congr {states others : List σ} {origin : String}
    (same : states.head? = others.head?) :
    table.target states origin = table.target others origin := by
  cases states <;> cases others <;> simp_all [Table.target, topRow]

/-- Whether a reduction changes the states above another one that it leaves where it is. -/
def Above (table : Table σ) (kind : String) (ending : Option σ) (base : σ)
    (above after : List σ) : Prop :=
  ∃ rule target, table.move (above ++ [base]) kind = .reduce rule ∧
    rule.expansion.length ≤ above.length ∧
    table.target (above.drop rule.expansion.length ++ [base]) rule.origin = .ok target ∧
    some target ≠ ending ∧ after = target :: above.drop rule.expansion.length

/-- Whether reductions lead from a state to another one above it. -/
def Supports (table : Table σ) (kind : String) (ending : Option σ) (lower upper : σ) : Prop :=
  ∃ between, TransGen (table.Above kind ending lower) [] (upper :: between)

/-- What lies below the state that a reduction leaves where it is does not matter. -/
theorem Above.round? (step : table.Above kind ending base above after) (rest : List σ) :
    table.round? kind ending (above ++ base :: rest) = some (after ++ base :: rest) := by
  rcases step with ⟨rule, target, move, few, found, goes, rfl⟩
  refine round?_eq_some_iff.mpr ⟨rule, target, ?_, ?_, goes, ?_⟩
  · rw [← move]
    exact move_congr (by cases above <;> rfl)
  · rw [List.drop_append_of_le_length few, ← found]
    exact target_congr (by cases above.drop rule.expansion.length <;> rfl)
  · rw [List.drop_append_of_le_length few]
    rfl

/-- A reduction on a stack that takes no more than what lies above a state leaves this state where
it is. -/
theorem above_of_round {rule : Rule} {target : σ}
    (move : table.move (above ++ base :: rest) kind = .reduce rule)
    (few : rule.expansion.length ≤ above.length)
    (found : table.target ((above ++ base :: rest).drop rule.expansion.length) rule.origin =
      .ok target) (goes : some target ≠ ending) :
    table.Above kind ending base above (target :: above.drop rule.expansion.length) := by
  refine ⟨rule, target, ?_, few, ?_, goes, rfl⟩
  · rw [← move]
    exact move_congr (by cases above <;> rfl)
  · rw [← found, List.drop_append_of_le_length few]
    exact target_congr (by cases above.drop rule.expansion.length <;> rfl)

/-- A reduction above a state is one above every state further down. -/
theorem Above.deepen (step : table.Above kind ending base above after) (between : List σ) :
    table.Above kind ending lower (above ++ base :: between) (after ++ base :: between) := by
  have next := step.round? (between ++ [lower])
  rcases step with ⟨rule, target, move, few, found, goes, rfl⟩
  refine ⟨rule, target, ?_, ?_, ?_, goes, ?_⟩
  · rw [← move]
    exact move_congr (by cases above <;> rfl)
  · simp only [List.length_append]
    omega
  · rw [List.drop_append_of_le_length few, ← found]
    exact target_congr (by cases above.drop rule.expansion.length <;> rfl)
  · rw [List.drop_append_of_le_length few]
    rfl

theorem Supports.trans (first : table.Supports kind ending lower middle)
    (second : table.Supports kind ending middle upper) :
    table.Supports kind ending lower upper := by
  rcases first with ⟨below, first⟩
  rcases second with ⟨between, second⟩
  refine ⟨between ++ middle :: below, first.trans ?_⟩
  exact second.lift (· ++ middle :: below) fun _ _ step => step.deepen below

/-- Reductions above a state are reductions of the whole stack. -/
theorem exists_rounds_of_above (steps : TransGen (table.Above kind ending base) above after)
    (rest : List σ) :
    ∃ count, table.rounds kind ending (count + 1) (above ++ base :: rest) =
      some (after ++ base :: rest) := by
  induction steps with
  | single step => exact ⟨0, by rw [rounds_one, step.round?]⟩
  | tail _ step ih =>
      rcases ih with ⟨count, reached⟩
      exact ⟨count + 1, by rw [rounds_add, reached, Option.bind_some, rounds_one, step.round?]⟩

/-- Reductions never end above a state that they reach again above itself. -/
theorem Supports.diverges (again : table.Supports kind ending base base) (rest : List σ) :
    table.Diverges kind ending (base :: rest) := by
  rcases again with ⟨between, steps⟩
  intro count
  induction count using Nat.strongRecOn generalizing rest with
  | ind count ih =>
      rcases exists_rounds_of_above steps rest with ⟨spent, reached⟩
      rcases Nat.lt_or_ge spent count with more | enough
      · rcases Nat.exists_eq_add_of_le (show spent + 1 ≤ count from more) with ⟨left, rfl⟩
        rw [rounds_add, show base :: rest = [] ++ base :: rest from rfl, reached]
        exact ih left (by omega) _
      · exact rounds_isSome_of_le (Nat.le_succ_of_le enough)
          (by rw [show base :: rest = [] ++ base :: rest from rfl, reached]; rfl)

end Supports

/-- How a stack that reductions have led to is made up: some fresh states lie above what has never
been taken off the first stack, each reached by reductions from all the fresh ones below it. -/
structure Layered (table : Table σ) (kind : String) (ending : Option σ) (first : List σ)
    (fresh : List σ) (taken : Nat) (states : List σ) : Prop where
  states : states = fresh ++ first.drop taken
  within : taken ≤ first.length
  rising : ∀ {above below : List σ} {base : σ}, fresh = above ++ base :: below →
    ReflTransGen (table.Above kind ending base) [] above
  ordered : fresh.Pairwise fun upper lower => table.Supports kind ending lower upper
  known : ∀ state ∈ fresh.tail, (table.row? state).isSome

namespace Layered

variable {first fresh states after : List σ} {taken : Nat}

/-- Where reductions go on, the state on top has a row, like all the fresh ones below it. -/
theorem row_isSome (layered : table.Layered kind ending first fresh taken states)
    (goes : (table.round? kind ending states).isSome) {state : σ} (member : state ∈ fresh) :
    (table.row? state).isSome := by
  rcases Option.isSome_iff_exists.mp goes with ⟨after, step⟩
  rcases round?_eq_some_iff.mp step with ⟨rule, target, move, _⟩
  rcases move_eq_reduce move with ⟨top, found, row, has, _⟩
  cases fresh with
  | nil => cases member
  | cons head tail =>
      rw [layered.states] at found
      rcases (show head = top by simpa using found) with rfl
      rcases List.mem_cons.mp member with rfl | member
      · simp [has]
      · exact layered.known state member

/-- A reduction puts a fresh state above those that it leaves. -/
theorem round (layered : table.Layered kind ending first fresh taken states)
    (step : table.round? kind ending states = some after) :
    ∃ fresh' taken', table.Layered kind ending first fresh' taken' after := by
  have rows {state : σ} (member : state ∈ fresh) : (table.row? state).isSome :=
    layered.row_isSome (by simp [step]) member
  rcases round?_eq_some_iff.mp step with ⟨rule, target, move, found, goes, rfl⟩
  have same := layered.states
  subst same
  rcases Nat.le_total rule.expansion.length fresh.length with few | many
  · have rises {above below : List σ} {base : σ}
        (split : fresh.drop rule.expansion.length = above ++ base :: below) :
        TransGen (table.Above kind ending base) [] (target :: above) := by
      have whole : fresh =
          (fresh.take rule.expansion.length ++ above) ++ base :: below := by
        rw [List.append_assoc, ← split, List.take_append_drop]
      have length : (fresh.take rule.expansion.length).length = rule.expansion.length :=
        List.length_take_of_le few
      rw [whole, List.append_assoc, List.cons_append] at move found
      have last := above_of_round move (by simp [length]) found goes
      rw [List.drop_left' length] at last
      exact .tail' (layered.rising whole) last
    refine ⟨target :: fresh.drop rule.expansion.length, taken, ?_, layered.within, ?_, ?_, ?_⟩
    · rw [List.drop_append_of_le_length few]
      rfl
    · intro above below base split
      cases above with
      | nil => exact .refl
      | cons head above =>
          rcases List.cons.inj split with ⟨equal, rest⟩
          exact equal ▸ (rises rest).to_reflTransGen
    · refine List.pairwise_cons.mpr ⟨fun lower member => ?_, layered.ordered.drop⟩
      rcases List.append_of_mem member with ⟨above, below, split⟩
      exact ⟨above, rises split⟩
    · exact fun state member => rows (List.mem_of_mem_drop member)
  · refine ⟨[target], min first.length (taken + (rule.expansion.length - fresh.length)), ?_,
      Nat.min_le_left _ _, ?_, ?_, ?_⟩
    · rw [List.drop_append, List.drop_eq_nil_of_le many, List.drop_drop]
      rcases Nat.le_total first.length (taken + (rule.expansion.length - fresh.length)) with all | _
      · rw [List.drop_eq_nil_of_le all, Nat.min_eq_left all, List.drop_length]
        rfl
      · rw [Nat.min_eq_right ‹_›]
        rfl
    · intro above below base split
      cases above with
      | nil => exact .refl
      | cons head above => simp at split
    · simp
    · simp

/-- Unless the reductions never end, no fresh state is reached again above itself. -/
theorem not_supports_self (layered : table.Layered kind ending first fresh taken states)
    (ends : ¬table.Diverges kind ending states) {state : σ} (member : state ∈ fresh) :
    ¬table.Supports kind ending state state := by
  intro again
  rcases List.append_of_mem member with ⟨above, below, split⟩
  have endless := again.diverges (below ++ first.drop taken)
  refine ends ?_
  rw [layered.states, split, List.append_assoc, List.cons_append]
  rcases (reflTransGen_iff_eq_or_transGen).mp (layered.rising split) with rfl | steps
  · exact endless
  · rcases exists_rounds_of_above steps (below ++ first.drop taken) with ⟨count, reached⟩
    exact endless.rounds reached

/-- Unless the reductions never end, the order of the fresh states is determined by which they
are. -/
theorem unique {fresh' states' : List σ}
    (layered : table.Layered kind ending first fresh taken states)
    (layered' : table.Layered kind ending first fresh' taken states')
    (ends : ¬table.Diverges kind ending states) (ends' : ¬table.Diverges kind ending states')
    (same : fresh.toFinset = fresh'.toFinset) : states = states' := by
  have distinct {first fresh states : List σ} {taken : Nat}
      (layered : table.Layered kind ending first fresh taken states)
      (ends : ¬table.Diverges kind ending states) : fresh.Nodup :=
    layered.ordered.imp_of_mem fun member _ supports equal =>
      layered.not_supports_self ends member (by rwa [← equal] at supports)
  have perm := List.perm_of_nodup_nodup_toFinset_eq (distinct layered ends)
    (distinct layered' ends') same
  have equal : fresh = fresh' :=
    perm.eq_of_pairwise (fun a b member _ first second =>
      absurd (second.trans first) (layered.not_supports_self ends member))
      layered.ordered layered'.ordered
  rw [layered.states, layered'.states, equal]

end Layered

/-- Every stack that reductions lead to is made up of fresh states above a part of the first one. -/
theorem exists_layered {first states : List σ} {count : Nat}
    (reached : table.rounds kind ending count first = some states) :
    ∃ fresh taken, table.Layered kind ending first fresh taken states := by
  induction count generalizing states with
  | zero =>
      rcases Option.some.inj reached with rfl
      exact ⟨[], 0, rfl, by simp, by simp, .nil, by simp⟩
  | succ count ih =>
      rw [rounds_add] at reached
      rcases Option.bind_eq_some_iff.mp reached with ⟨between, reached, step⟩
      rcases ih reached with ⟨fresh, taken, layered⟩
      rw [rounds_one] at step
      exact layered.round step

/-- Reductions that end are no more than there are parts of the stack and sets of states. -/
theorem le_of_not_diverges {states : List σ} {count : Nat}
    (goes : (table.rounds kind ending count states).isSome)
    (ends : ¬table.Diverges kind ending states) :
    count ≤ (states.length + 1) * 2 ^ table.rows.length := by
  classical
  have reached (time : Nat) : ∃ between fresh taken, time < count →
      table.rounds kind ending time states = some between ∧
        table.Layered kind ending states fresh taken between ∧
        (table.round? kind ending between).isSome := by
    by_cases early : time < count
    · rcases Option.isSome_iff_exists.mp (rounds_isSome_of_le (Nat.le_of_lt early) goes) with
        ⟨between, reached⟩
      rcases exists_layered reached with ⟨fresh, taken, layered⟩
      refine ⟨between, fresh, taken, fun _ => ⟨reached, layered, ?_⟩⟩
      have next := rounds_isSome_of_le (show time + 1 ≤ count from early) goes
      rwa [rounds_add, reached, Option.bind_some, rounds_one] at next
    · exact ⟨[], [], 0, fun early' => absurd early' early⟩
  choose between fresh taken reached using reached
  have ended {time : Nat} (early : time < count) :
      ¬table.Diverges kind ending (between time) := fun endless =>
    ends (endless.of_rounds (reached time early).1)
  have repeats {time later : Nat} (early : time < later) (most : later < count) :
      between time ≠ between later := by
    intro same
    rcases Nat.exists_eq_add_of_lt early with ⟨rest, rfl⟩
    have after := (reached _ most).1
    rw [← same, Nat.add_assoc, rounds_add, (reached _ (Nat.lt_trans early most)).1,
      Option.bind_some] at after
    exact ended (Nat.lt_trans early most) (diverges_of_repeats after)
  let names : Finset σ := (table.rows.map Prod.fst).toFinset
  have counted : (Finset.range count).card ≤
      (Finset.range (states.length + 1) ×ˢ names.powerset).card := by
    refine Finset.card_le_card_of_injOn (fun time => (taken time, (fresh time).toFinset)) ?_ ?_
    · intro time early
      have early : time < count := by simpa using early
      rcases reached time early with ⟨_, layered, goes⟩
      refine Finset.mem_coe.mpr (Finset.mem_product.mpr
        ⟨Finset.mem_range.mpr (Nat.lt_succ_of_le layered.within), Finset.mem_powerset.mpr ?_⟩)
      intro state member
      rcases Option.isSome_iff_exists.mp
          (layered.row_isSome goes (List.mem_toFinset.mp member)) with
        ⟨row, found⟩
      exact List.mem_toFinset.mpr (List.mem_map.mpr ⟨_, mem_of_assoc? found, rfl⟩)
    · intro time early later late same
      have early : time < count := by simpa using early
      have late : later < count := by simpa using late
      rcases Prod.mk.inj same with ⟨depths, sets⟩
      have equal : between time = between later :=
        (reached time early).2.1.unique (depths ▸ (reached later late).2.1) (ended early)
          (ended late) sets
      rcases Nat.lt_trichotomy time later with before | rfl | before
      · exact absurd equal (repeats before late)
      · rfl
      · exact absurd equal.symm (repeats before early)
  rw [Finset.card_range, Finset.card_product, Finset.card_range, Finset.card_powerset] at counted
  refine counted.trans (Nat.mul_le_mul_left _ (Nat.pow_le_pow_right (by omega) ?_))
  exact (List.toFinset_card_le _).trans (by simp)

/-- A parse that makes as many reductions on one token as it is granted makes them for ever. -/
theorem diverges_of_reductionBound {states : List σ}
    (goes : (table.rounds kind ending (table.reductionBound states.length) states).isSome) :
    table.Diverges kind ending states := by
  by_contra ends
  have most := le_of_not_diverges goes ends
  have powers : 2 ^ table.rows.length ≤ (table.longestRule + 2) ^ (table.rows.length + 2) :=
    (Nat.pow_le_pow_right (by omega) (by omega)).trans (Nat.pow_le_pow_left (by omega) _)
  have enough : (states.length + 1) * 2 ^ table.rows.length <
      table.reductionBound states.length :=
    Nat.lt_of_lt_of_le (Nat.mul_lt_mul_of_pos_right (by omega) (Nat.two_pow_pos _))
      (Nat.mul_le_mul_left (states.length + 2) powers)
  exact absurd most (Nat.not_le.mpr enough)

end Lalr.Table
