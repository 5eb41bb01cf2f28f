import Mathlib.Order.Defs.Unbundled
import Lalr.Proofs.Discretion

/-!
# Work that is confined

Work is confined to some ways of changing the forest if it changes the forest in one of
these. Ways that add up are a preorder, and work that is done in steps is confined to them
if each of its steps is.
-/

namespace Lalr

variable {α β : Type} {allowed : Forest → Forest → Prop}

/-- Whether work changes the forest in an allowed way. -/
structure Work.Confined (allowed : Forest → Forest → Prop) (work : Work α) : Prop where
  changes : ∀ {before after answer}, work.Gives before answer after →
    allowed before.forest after.forest

/-- Whether a run changes the forest in an allowed way, whether it fails or not. -/
def Run.Confined (allowed : Forest → Forest → Prop) (run : Run α) : Prop :=
  Work.Confined allowed run.run

namespace Work.Confined

theorem tend {change : Forest → Forest} (within : ∀ forest, allowed forest (change forest)) :
    Work.Confined allowed (Work.tend change) where
  changes gives := by
    cases gives
    exact within _

theorem plant {plant : Forest → α × Forest}
    (within : ∀ forest, allowed forest (plant forest).2) :
    Work.Confined allowed (Work.plant plant) where
  changes gives := by
    cases gives
    exact within _

variable [IsPreorder Forest allowed]

theorem of_quiet {work : Work α} (quiet : work.Quiet) : work.Confined allowed where
  changes gives := by
    rw [(quiet.alike gives).forest]
    exact refl_of allowed _

theorem pure (value : α) : Work.Confined allowed (Pure.pure value) := of_quiet (.pure value)

theorem look (look : Forest → α) : Work.Confined allowed (Work.look look) where
  changes gives := by
    rcases gives_look.mp gives with ⟨_, rfl⟩
    exact refl_of allowed _

theorem bind {work : Work α} {rest : α → Work β} (confined : work.Confined allowed)
    (go : ∀ value, (rest value).Confined allowed) : Work.Confined allowed (work >>= rest) where
  changes gives := by
    rcases gives_bind.mp gives with ⟨value, between, first, gives⟩
    exact trans_of allowed (confined.changes first) ((go value).changes gives)

end Work.Confined

namespace Run.Confined

theorem yields {run : Run α} (confined : run.Confined allowed)
    {before after : Workspace} {value : α} (yields : run.Yields before value after) :
    allowed before.forest after.forest :=
  Work.Confined.changes confined yields

variable [IsPreorder Forest allowed]

theorem pure (value : α) : Run.Confined allowed (Pure.pure value) := Work.Confined.pure _

theorem throw (failure : Failure) : Run.Confined allowed (MonadExcept.throw failure : Run α) :=
  Work.Confined.pure _

theorem bind {run : Run α} {rest : α → Run β} (confined : run.Confined allowed)
    (go : ∀ value, (rest value).Confined allowed) : Run.Confined allowed (run >>= rest) := by
  show Work.Confined allowed (run >>= rest).run
  rw [ExceptT.run_bind]
  refine Work.Confined.bind confined fun answer => ?_
  cases answer with
  | error failure => exact Work.Confined.pure _
  | ok value => exact go value

theorem work {work : Work α} (confined : work.Confined allowed) :
    Run.Confined allowed (liftM work : Run α) :=
  Work.Confined.bind confined fun _ => .pure _

theorem look (look : Forest → α) : Run.Confined allowed (Work.look look) := work (.look look)

theorem plant {plant : Forest → α × Forest}
    (within : ∀ forest, allowed forest (plant forest).2) :
    Run.Confined allowed (Work.plant plant) := work (.plant within)

end Run.Confined

end Lalr
