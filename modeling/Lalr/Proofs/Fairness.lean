import Lalr.Proofs.Runs

/-!
# Failures that say what is wrong

Most of the failures of a loader say what is wrong with the grammar, with its options or
with its terminals. The others only tell that something was looked up and was not there,
or was not of the kind that was needed. A computation is fair if it never ends in one of
these.
-/

namespace Lalr

variable {α β γ : Type} {holds : α → Prop} {gives : β → Prop}

/-- Whether a failure says what is wrong with a grammar, its options or its terminals. -/
def Failure.Reported : Failure → Prop
  | .configuration _ => True
  | .grammar _ => True
  | .lexical _ => True
  | _ => False

/-- Whether an answer is a value of which something holds or else a failure that is reported. -/
inductive Fair (holds : α → Prop) : Except Failure α → Prop
  | ok {value : α} (known : holds value) : Fair holds (.ok value)
  | error {failure : Failure} (reported : failure.Reported) : Fair holds (.error failure)

namespace Fair

theorem of_ok {answer : Except Failure α} {value : α} (went : answer = .ok value)
    (known : holds value) : Fair holds answer := went ▸ .ok known

theorem fine {answer : Except Failure α} {value : α} (went : answer = .ok value) :
    Fair (fun _ => True) answer := .of_ok went trivial

theorem imp {holds' : α → Prop} {answer : Except Failure α} (fair : Fair holds answer)
    (more : ∀ value, holds value → holds' value) : Fair holds' answer := by
  cases fair with
  | ok known => exact .ok (more _ known)
  | error reported => exact .error reported

theorem known {answer : Except Failure α} (fair : Fair holds answer) :
    Fair (fun value => answer = .ok value ∧ holds value) answer := by
  cases fair with
  | ok known => exact .ok ⟨rfl, known⟩
  | error reported => exact .error reported

theorem bind {answer : Except Failure α} {rest : α → Except Failure β}
    (fair : Fair holds answer) (goes : ∀ value, holds value → Fair gives (rest value)) :
    Fair gives (answer >>= rest) := by
  cases fair with
  | ok known => exact goes _ known
  | error reported => exact .error reported

/-- Steps that are fair give something for all items that stands in the same relation to what stands
beside the items. -/
theorem mapM {related : γ → β → Prop} {step : α → Except Failure β} {others : List γ}
    {items : List α}
    (each : List.Forall₂ (fun other item => Fair (related other) (step item)) others items) :
    Fair (List.Forall₂ related others) (items.mapM step) := by
  induction each with
  | nil => exact .ok .nil
  | cons head _ ih =>
      rw [List.mapM_cons]
      exact head.bind fun _ first => ih.bind fun _ rest => .ok (.cons first rest)

theorem mapM_each {step : α → Except Failure β} {items : List α}
    (each : ∀ item ∈ items, Fair (fun _ => True) (step item)) :
    Fair (fun _ => True) (items.mapM step) := by
  induction items with
  | nil => exact .ok trivial
  | cons item rest ih =>
      rw [List.forall_mem_cons] at each
      rw [List.mapM_cons]
      exact each.1.bind fun _ _ => (ih each.2).bind fun _ _ => .ok trivial

theorem forM {step : α → Except Failure Unit} {items : List α}
    (each : ∀ item ∈ items, Fair (fun _ => True) (step item)) :
    Fair (fun _ => True) (items.forM step) := by
  induction items with
  | nil => exact .ok trivial
  | cons item rest ih =>
      rw [List.forall_mem_cons] at each
      rw [forM_cons_eq]
      exact each.1.bind fun _ _ => ih each.2

end Fair

namespace Run

/-- Whether a run ends with a value of which something holds or else with a failure that is
reported, whatever it starts from. -/
def Fair (holds : α → Prop) (run : Run α) : Prop :=
  ∀ before : Workspace, Lalr.Fair holds (run.run.run before).1

namespace Fair

theorem pure {value : α} (known : holds value) : Run.Fair holds (Pure.pure value) :=
  fun _ => .ok known

theorem bind {run : Run α} {rest : α → Run β} (fair : run.Fair holds)
    (goes : ∀ value, holds value → (rest value).Fair gives) : (run >>= rest).Fair gives := by
  intro before
  rw [run_bind]
  have first := fair before
  rcases ran : run.run.run before with ⟨answer, between⟩
  rw [ran] at first
  cases first with
  | ok known => exact goes _ known between
  | error reported => exact .error reported

theorem lift {answer : Except Failure α} (fair : Lalr.Fair holds answer) :
    (Run.lift answer).Fair holds := by
  intro before
  rw [run_lift]
  exact fair

theorem work (work : Work α) : Run.Fair (fun _ => True) (liftM work : Run α) :=
  fun _ => .ok trivial

theorem get : Run.Fair (fun _ => True) (get : Run Workspace) := fun _ => .ok trivial

theorem modify (change : Workspace → Workspace) :
    Run.Fair (fun _ => True) (modify change : Run PUnit) := fun _ => .ok trivial

/-- A loop whose steps are fair is fair. -/
theorem forIn {items : List α} {step : α → PUnit → Run (ForInStep PUnit)}
    (each : ∀ item, (step item ⟨⟩).Fair fun _ => True) :
    Run.Fair (fun _ => True) (ForIn.forIn items PUnit.unit step) := by
  induction items with
  | nil => exact .pure trivial
  | cons item rest ih =>
      rw [List.forIn_cons]
      refine (each item).bind fun went _ => ?_
      cases went with
      | done => exact .pure trivial
      | yield => exact ih

end Fair

end Run

end Lalr
