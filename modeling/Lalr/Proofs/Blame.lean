import Lalr.Proofs.Runs

/-!
# What never blames the input

A handler may help a parse out of a failure that blames its input, and out of no other.
Most steps never fail in this way: making a scanner, calling a handler, building a tree.
-/

namespace Lalr

variable {α β : Type}

/-- Whether an answer is no failure that blames the input. -/
def Unstuck (answer : Except Failure α) : Prop :=
  ∀ failure, answer = .error failure → failure.isStuck = false

namespace Unstuck

theorem ok (value : α) : Unstuck (.ok value) := fun _ failed => nomatch failed

theorem error {failure : Failure} (innocent : failure.isStuck = false) :
    Unstuck (.error failure : Except Failure α) := by
  rintro _ ⟨⟩
  exact innocent

theorem bind {answer : Except Failure α} {rest : α → Except Failure β} (first : Unstuck answer)
    (goes : ∀ value, Unstuck (rest value)) : Unstuck (answer >>= rest) := by
  cases answer with
  | error failure => exact .error (first failure rfl)
  | ok value => exact goes value

theorem mapM {step : α → Except Failure β} (each : ∀ item, Unstuck (step item))
    (items : List α) : Unstuck (items.mapM step) := by
  induction items with
  | nil => exact .ok _
  | cons item rest ih =>
      rw [List.mapM_cons]
      exact (each item).bind fun _ => ih.bind fun _ => .ok _

theorem filterM {accept : α → Except Failure Bool} (each : ∀ item, Unstuck (accept item))
    (items : List α) : Unstuck (items.filterM accept) := by
  induction items with
  | nil => exact .ok _
  | cons item rest ih =>
      rw [filterM_cons]
      refine (each item).bind fun kept => ?_
      cases others : rest.filterM accept with
      | error failure => exact .error (ih failure others)
      | ok others => exact .ok _

end Unstuck

namespace Run

/-- Whether a run never fails in a way that blames the input. -/
def Unstuck (run : Run α) : Prop := ∀ before : Workspace, Lalr.Unstuck (run.run.run before).1

namespace Unstuck

theorem isStuck {run : Run α} {before after : Workspace} {failure : Failure}
    (unstuck : run.Unstuck) (gives : Work.Gives run.run before (.error failure) after) :
    failure.isStuck = false :=
  unstuck before failure (congrArg Prod.fst gives)

theorem pure (value : α) : Run.Unstuck (Pure.pure value : Run α) := fun _ => .ok value

theorem throw {failure : Failure} (innocent : failure.isStuck = false) :
    Run.Unstuck (MonadExcept.throw failure : Run α) := fun _ => .error innocent

theorem bind {run : Run α} {rest : α → Run β} (first : run.Unstuck)
    (goes : ∀ value, (rest value).Unstuck) : (run >>= rest).Unstuck := by
  intro before
  rw [run_bind]
  rcases ran : run.run.run before with ⟨answer, between⟩
  cases answer with
  | error failure => exact .error (first before failure (congrArg Prod.fst ran))
  | ok value => exact goes value between

theorem work (work : Work α) : Run.Unstuck (liftM work : Run α) := fun _ => .ok _

theorem look (look : Forest → α) : Run.Unstuck (Work.look look : Run α) := fun _ => .ok _

theorem plant (plant : Forest → α × Forest) : Run.Unstuck (Work.plant plant : Run α) :=
  fun _ => .ok _

theorem tend (tend : Forest → Forest) : Run.Unstuck (Work.tend tend : Run Unit) := fun _ => .ok _

theorem ite {condition : Prop} [Decidable condition] {run run' : Run α} (first : run.Unstuck)
    (second : run'.Unstuck) : (if condition then run else run').Unstuck := by
  split
  · exact first
  · exact second

end Unstuck

end Run

end Lalr
