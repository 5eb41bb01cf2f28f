import Mathlib.Data.List.Forall2
import Lalr.Workspace

/-!
# What runs yield

A run that succeeds has gone through all of its steps. This file says of each kind
of step what it yields and what it leaves behind, so that a successful run can be
taken apart without looking into the monad. Work, which cannot fail, is taken apart
in the same way.
-/

namespace Lalr

/-- Whether work comes to an answer, starting from one workspace and leaving another. -/
def Work.Gives {α : Type} (work : Work α) (before : Workspace) (answer : α) (after : Workspace) :
    Prop :=
  @Eq (α × Workspace) (work.run before) (answer, after)

namespace Work

variable {α β : Type} {before after : Workspace} {answer : α}

theorem gives (work : Work α) (before : Workspace) :
    work.Gives before (StateT.run (m := Id) work before).1 (StateT.run (m := Id) work before).2 :=
  rfl

theorem Gives.unique {work : Work α} {answer' : α} {after' : Workspace}
    (gives : work.Gives before answer after) (gives' : work.Gives before answer' after') :
    answer = answer' ∧ after = after' := by
  unfold Gives at gives gives'
  rw [gives] at gives'
  cases gives'
  exact ⟨rfl, rfl⟩

@[simp] theorem gives_pure {given : α} :
    Gives (pure given) before answer after ↔ given = answer ∧ before = after := by
  constructor
  · intro work
    cases work
    exact ⟨rfl, rfl⟩
  · rintro ⟨rfl, rfl⟩
    rfl

@[simp] theorem gives_bind {work : Work α} {rest : α → Work β} {answer : β} :
    Gives (work >>= rest) before answer after ↔
      ∃ given between, work.Gives before given between ∧
        (rest given).Gives between answer after := by
  unfold Gives
  simp only [StateT.run_bind]
  simp only [bind]
  rcases (StateT.run work before : α × Workspace) with ⟨given, between⟩
  constructor
  · exact fun work => ⟨given, between, rfl, work⟩
  · rintro ⟨_, _, ⟨⟩, work⟩
    exact work

/-- What comes after work that is known goes on from where it has led. -/
theorem Gives.bind_iff {work : Work α} {rest : α → Work β} {given : α}
    {between : Workspace} {answer : β} (gives : work.Gives before given between) :
    (work >>= rest).Gives before answer after ↔ (rest given).Gives between answer after := by
  rw [gives_bind]
  constructor
  · rintro ⟨given', between', gives', went⟩
    rcases gives.unique gives' with ⟨rfl, rfl⟩
    exact went
  · exact fun went => ⟨given, between, gives, went⟩

@[simp] theorem gives_map {work : Work α} {f : α → β} {answer : β} :
    Gives (f <$> work) before answer after ↔
      ∃ given, work.Gives before given after ∧ f given = answer := by
  rw [map_eq_pure_bind, gives_bind]
  constructor
  · rintro ⟨given, between, work, mapped⟩
    rcases gives_pure.mp mapped with ⟨rfl, rfl⟩
    exact ⟨given, work, rfl⟩
  · rintro ⟨given, work, rfl⟩
    exact ⟨given, after, work, gives_pure.mpr ⟨rfl, rfl⟩⟩

@[simp] theorem gives_look {look : Forest → α} :
    Gives (Work.look look) before answer after ↔
      look before.forest = answer ∧ before = after := by
  constructor
  · intro work
    cases work
    exact ⟨rfl, rfl⟩
  · rintro ⟨rfl, rfl⟩
    rfl

end Work

/-- Whether a run succeeds with a value, starting from one workspace and leaving another. -/
def Run.Yields {α : Type} (run : Run α) (before : Workspace) (value : α) (after : Workspace) :
    Prop :=
  @Eq (Except Failure α × Workspace) (run.run.run before) (.ok value, after)

namespace Run

variable {α β : Type} {before after : Workspace} {value : α}

@[simp] theorem yields_work {work : Work α} :
    Yields (liftM work) before value after ↔ work.Gives before value after := by
  have lifted : (liftM work : Run α).run = work >>= fun given => pure (.ok given) := rfl
  show Work.Gives (liftM work : Run α).run before (.ok value) after ↔ _
  rw [lifted, Work.gives_bind]
  simp

@[simp] theorem lift_ok (value : α) : Run.lift (.ok value) = pure value := rfl

@[simp] theorem lift_error (failure : Failure) :
    (Run.lift (.error failure) : Run α) = throw failure := rfl

@[simp] theorem run_lift (result : Except Failure α) :
    (Run.lift result).run = (pure result : Work (Except Failure α)) := by
  cases result <;> rfl

/-- Work that is done within a run comes before what is left of the run. -/
theorem run_work_bind (work : Work α) (rest : α → Run β) :
    ((liftM work : Run α) >>= rest).run = work >>= fun given => (rest given).run :=
  ExceptT.run_bind_lift work rest

/-- A run goes on with the workspace that its first step leaves, unless that step fails. -/
theorem run_bind (run : Run α) (rest : α → Run β) (before : Workspace) :
    (run >>= rest).run.run before =
      match run.run.run before with
      | (.ok given, between) => (rest given).run.run between
      | (.error failure, between) => (.error failure, between) := by
  simp only [ExceptT.run_bind, StateT.run_bind]
  simp only [bind]
  rcases StateT.run run.run before with ⟨_ | given, between⟩
  · rfl
  · rfl

/-- A run goes on with what its first step gives, unless that step fails. -/
theorem gives_run_bind {run : Run α} {rest : α → Run β} {answer : Except Failure β} :
    (run >>= rest).run.Gives before answer after ↔
      (∃ failure, run.run.Gives before (.error failure) after ∧ answer = .error failure) ∨
        ∃ given between, run.run.Gives before (.ok given) between ∧
          (rest given).run.Gives between answer after := by
  rw [ExceptT.run_bind, Work.gives_bind]
  constructor
  · rintro ⟨_ | given, between, first, gives⟩
    · rcases Work.gives_pure.mp gives with ⟨rfl, rfl⟩
      exact .inl ⟨_, first, rfl⟩
    · exact .inr ⟨given, between, first, gives⟩
  · rintro (⟨failure, first, rfl⟩ | ⟨given, between, first, gives⟩)
    · exact ⟨_, _, first, Work.gives_pure.mpr ⟨rfl, rfl⟩⟩
    · exact ⟨_, _, first, gives⟩

/-- A run whose failures are told otherwise does the same, and fails with what is told. -/
theorem run_retold (run : Run α) (retell : Failure → Failure) (before : Workspace) :
    (tryCatch run fun failure => throw (retell failure)).run.run before =
      match run.run.run before with
      | (.ok value, after) => (.ok value, after)
      | (.error failure, after) => (.error (retell failure), after) := by
  rw [ExceptT.run_tryCatch, StateT.run_bind]
  simp only [bind]
  rcases StateT.run run.run before with ⟨failure | value, after⟩
  · rfl
  · rfl

theorem yields_retold {run : Run α} {retell : Failure → Failure} :
    Yields (tryCatch run fun failure => throw (retell failure)) before value after ↔
      run.Yields before value after := by
  unfold Yields
  rw [run_retold]
  rcases run.run.run before with ⟨failure | given, between⟩
  · simp
  · rfl

@[simp]
theorem yields_pure {given : α} :
    Yields (pure given) before value after ↔ given = value ∧ before = after := by
  constructor
  · intro run
    cases run
    exact ⟨rfl, rfl⟩
  · rintro ⟨rfl, rfl⟩
    rfl

@[simp]
theorem yields_throw {failure : Failure} :
    ¬Yields (throw failure : Run α) before value after := by
  intro run
  cases run

@[simp]
theorem yields_bind {run : Run α} {rest : α → Run β} {value : β} :
    Yields (run >>= rest) before value after ↔
      ∃ given between, run.Yields before given between ∧
        (rest given).Yields between value after := by
  unfold Yields
  rw [run_bind]
  rcases run.run.run before with ⟨_ | given, between⟩
  · simp
  · constructor
    · exact fun run => ⟨given, between, rfl, run⟩
    · rintro ⟨_, _, ⟨⟩, run⟩
      exact run

@[simp]
theorem yields_look {look : Forest → α} :
    Yields (Work.look look) before value after ↔ look before.forest = value ∧
      before = after := by
  constructor
  · intro run
    cases run
    exact ⟨rfl, rfl⟩
  · rintro ⟨rfl, rfl⟩
    rfl

@[simp]
theorem yields_plant {plant : Forest → α × Forest} :
    Yields (Work.plant plant) before value after ↔
      (plant before.forest).1 = value ∧
        { before with forest := (plant before.forest).2 } = after := by
  constructor
  · intro run
    cases run
    exact ⟨rfl, rfl⟩
  · rintro ⟨rfl, rfl⟩
    rfl

@[simp]
theorem yields_tend {tend : Forest → Forest} {value : Unit} :
    Yields (Work.tend tend) before value after ↔
      { before with forest := tend before.forest } = after := by
  constructor
  · intro run
    cases run
    rfl
  · rintro rfl
    rfl

@[simp]
theorem yields_get {value : Workspace} :
    Yields get before value after ↔ before = value ∧ before = after := by
  constructor
  · intro run
    cases run
    exact ⟨rfl, rfl⟩
  · rintro ⟨rfl, rfl⟩
    rfl

@[simp]
theorem yields_modify {change : Workspace → Workspace} {value : Unit} :
    Yields (modify change) before value after ↔ change before = after := by
  constructor
  · intro run
    cases run
    rfl
  · rintro rfl
    rfl

@[simp]
theorem yields_record {level : Level} {channel : Channel} {message : Unit → String}
    {value : Unit} :
    Yields (Work.record level channel message) before value after ↔
      { before with journal := before.journal.write level channel message } = after :=
  yields_modify

@[simp]
theorem yields_lift {result : Except Failure α} :
    Yields (Run.lift result) before value after ↔ result = .ok value ∧ before = after := by
  cases result with
  | error failure => simp [Run.lift]
  | ok given => simp [Run.lift]

end Run

/-- Whether two runs end alike: both with a value, and something holds of the values and of what the
runs leave behind, or both with the same failure, and something holds of what they leave behind. -/
def Coupled {α β ε s t : Type} (gives : α → β → s → t → Prop)
    (fails : s → t → Prop) :
    Except ε α × s → Except ε β × t → Prop
  | (.ok value, state), (.ok value', state') => gives value value' state state'
  | (.error failure, state), (.error failure', state') => failure = failure' ∧ fails state state'
  | _, _ => False

namespace Run

variable {α β γ δ : Type} {gives : α → β → Workspace → Workspace → Prop}
  {fails : Workspace → Workspace → Prop} {run : Run α} {run' : Run β}
  {before before' : Workspace}

/-- Whether two runs end alike, each starting from a workspace of its own. -/
def Coupled (gives : α → β → Workspace → Workspace → Prop)
    (fails : Workspace → Workspace → Prop) (run : Run α) (run' : Run β)
    (before before' : Workspace) : Prop :=
  @Lalr.Coupled α β Failure Workspace Workspace gives fails (run.run.run before)
    (run'.run.run before')

namespace Coupled

theorem pure {value : α} {value' : β} (known : gives value value' before before') :
    Run.Coupled gives fails (Pure.pure value) (Pure.pure value') before before' := known

theorem throw {failure : Failure} (known : fails before before') :
    Run.Coupled gives fails (MonadExcept.throw failure)
      (MonadExcept.throw failure) before before' :=
  ⟨rfl, known⟩

section Forests

variable {next : γ → Run α} {next' : δ → Run β}

theorem look {look : Forest → γ} {look' : Forest → δ}
    (goes : Run.Coupled gives fails (next (look before.forest)) (next' (look' before'.forest))
      before before') :
    Run.Coupled gives fails (Work.look look >>= next) (Work.look look' >>= next') before before' :=
  goes

theorem plant {plant : Forest → γ × Forest} {plant' : Forest → δ × Forest}
    (goes : Run.Coupled gives fails (next (plant before.forest).1) (next' (plant' before'.forest).1)
      { before with forest := (plant before.forest).2 }
      { before' with forest := (plant' before'.forest).2 }) :
    Run.Coupled gives fails (Work.plant plant >>= next) (Work.plant plant' >>= next') before
      before' :=
  goes

end Forests

/-- Runs that end alike and go on alike end alike. -/
theorem bind {next : α → Run γ} {next' : β → Run δ}
    {between : α → β → Workspace → Workspace → Prop}
    {gives : γ → δ → Workspace → Workspace → Prop}
    (coupled : Run.Coupled between fails run run' before before')
    (goes : ∀ {value value' after after'}, between value value' after after' →
      Run.Coupled gives fails (next value) (next' value') after after') :
    Run.Coupled gives fails (run >>= next) (run' >>= next') before before' := by
  unfold Run.Coupled at coupled ⊢
  rw [run_bind, run_bind]
  revert coupled
  rcases run.run.run before with ⟨answer, after⟩
  rcases run'.run.run before' with ⟨answer', after'⟩
  intro coupled
  cases answer <;> cases answer' <;> try exact coupled.elim
  · exact coupled
  · exact goes coupled

theorem imp {gives' : α → β → Workspace → Workspace → Prop}
    {fails' : Workspace → Workspace → Prop}
    (coupled : Run.Coupled gives fails run run' before before')
    (give : ∀ {value value' after after'}, gives value value' after after' →
      gives' value value' after after')
    (fail : ∀ {after after'}, fails after after' → fails' after after') :
    Run.Coupled gives' fails' run run' before before' := by
  unfold Run.Coupled at coupled ⊢
  revert coupled
  rcases run.run.run before with ⟨answer, after⟩
  rcases run'.run.run before' with ⟨answer', after'⟩
  intro coupled
  cases answer <;> cases answer' <;> try exact coupled.elim
  · exact ⟨coupled.1, fail coupled.2⟩
  · exact give coupled

end Coupled

end Run

section Answers

variable {ε α β : Type}

theorem exists_of_isSome {answer : Except ε α} (fine : answer.toOption.isSome = true) :
    ∃ value, answer = .ok value := by
  cases answer with
  | error failure => cases fine
  | ok value => exact ⟨value, rfl⟩

theorem eq_ok_of_toOption {answer : Except ε α} {value : α}
    (same : answer.toOption = some value) : answer = .ok value := by
  cases answer with
  | error failure => cases same
  | ok given => exact congrArg _ (Option.some.inj same)

/-- The failure of an answer, if it is one. -/
def failureOf? : Except ε α → Option ε
  | .error failure => some failure
  | .ok _ => none

theorem eq_error_of_failureOf? {answer : Except ε α} {failure : ε}
    (same : failureOf? answer = some failure) : answer = .error failure := by
  cases answer with
  | error given => exact congrArg _ (Option.some.inj same)
  | ok value => cases same

theorem bind_eq_ok {answer : Except ε α} {rest : α → Except ε β} {value : β} :
    answer >>= rest = .ok value ↔ ∃ given, answer = .ok given ∧ rest given = .ok value := by
  cases answer with
  | error failure =>
      constructor
      · intro failed
        cases failed
      · rintro ⟨_, failed, _⟩
        cases failed
  | ok given =>
      constructor
      · exact fun went => ⟨given, rfl, went⟩
      · rintro ⟨_, ⟨⟩, went⟩
        exact went

theorem mapM_eq_ok {step : α → Except ε β} {items : List α} {results : List β}
    (went : items.mapM step = .ok results) :
    List.Forall₂ (fun item result => step item = .ok result) items results := by
  induction items generalizing results with
  | nil =>
      cases went
      exact .nil
  | cons item items ih =>
      simp only [List.mapM_cons, bind_eq_ok] at went
      rcases went with ⟨first, head, rest, tail, went⟩
      cases went
      exact .cons head (ih tail)

theorem mapM_of_forall₂ {step : α → Except ε β} {items : List α} {results : List β}
    (each : List.Forall₂ (fun item result => step item = .ok result) items results) :
    items.mapM step = .ok results := by
  induction each with
  | nil => rfl
  | cons head _ ih =>
      rw [List.mapM_cons, head, ih]
      rfl

/-- Steps that give something related to what stands beside their item give it for all items. -/
theorem mapM_related {γ : Type} {related : γ → β → Prop} {step : α → Except ε β}
    {others : List γ} {items : List α}
    (each : List.Forall₂ (fun other item => ∃ result, step item = .ok result ∧
      related other result)
      others items) :
    ∃ results, items.mapM step = .ok results ∧ List.Forall₂ related others results := by
  induction each with
  | nil => exact ⟨[], rfl, .nil⟩
  | cons head _ ih =>
      rcases head with ⟨first, went, related⟩
      rcases ih with ⟨rest, others, tail⟩
      refine ⟨first :: rest, ?_, .cons related tail⟩
      rw [List.mapM_cons, went, others]
      rfl

theorem exists_mapM {step : α → Except ε β} {items : List α}
    (each : ∀ item ∈ items, ∃ result, step item = .ok result) :
    ∃ results, items.mapM step = .ok results := by
  induction items with
  | nil => exact ⟨[], rfl⟩
  | cons item items ih =>
      rcases each item (by simp) with ⟨first, head⟩
      rcases ih fun item member => each item (by simp [member]) with ⟨rest, tail⟩
      refine ⟨first :: rest, ?_⟩
      rw [List.mapM_cons, head, tail]
      rfl

theorem forM_cons_eq (step : α → Except ε Unit) (item : α) (rest : List α) :
    (item :: rest).forM step = step item >>= fun _ => rest.forM step := rfl

theorem forM_eq_ok {step : α → Except ε Unit} {items : List α}
    (went : items.forM step = .ok ()) : ∀ item ∈ items, step item = .ok () := by
  induction items with
  | nil => simp
  | cons item rest ih =>
      rw [forM_cons_eq] at went
      rcases bind_eq_ok.mp went with ⟨_, head, tail⟩
      rw [List.forall_mem_cons]
      exact ⟨head, ih tail⟩

theorem forM_of_forall {step : α → Except ε Unit} {items : List α}
    (each : ∀ item ∈ items, step item = .ok ()) : items.forM step = .ok () := by
  induction items with
  | nil => rfl
  | cons item rest ih =>
      rw [List.forall_mem_cons] at each
      rw [forM_cons_eq, each.1]
      exact ih each.2

theorem filterAuxM_append (accept : α → Except ε Bool) (items : List α) :
    ∀ found others, items.filterAuxM accept (found ++ others) =
      (items.filterAuxM accept found).map (· ++ others) := by
  induction items with
  | nil => exact fun _ _ => rfl
  | cons item rest ih =>
      intro found others
      simp only [List.filterAuxM]
      cases accept item with
      | error failure => rfl
      | ok kept =>
          cases kept with
          | false => exact ih found others
          | true => exact ih (item :: found) others

/-- Whether an item is kept is settled before the others are looked at. -/
theorem filterM_cons (accept : α → Except ε Bool) (item : α) (rest : List α) :
    (item :: rest).filterM accept = accept item >>= fun kept =>
      (rest.filterM accept).map fun others => if kept then item :: others else others := by
  simp only [List.filterM, List.filterAuxM]
  cases accept item with
  | error failure => rfl
  | ok kept =>
      have started : rest.filterAuxM accept [item] =
          (rest.filterAuxM accept []).map (· ++ [item]) := filterAuxM_append accept rest [] [item]
      cases kept with
      | false =>
          cases found : rest.filterAuxM accept [] <;>
            simp [found, bind, Except.bind, Except.map, pure, Except.pure]
      | true =>
          cases found : rest.filterAuxM accept [] <;>
            simp [found, started, bind, Except.bind, Except.map, pure, Except.pure]

theorem exists_filterM {accept : α → Except ε Bool} {items : List α}
    (each : ∀ item ∈ items, ∃ answer, accept item = .ok answer) :
    ∃ kept, items.filterM accept = .ok kept := by
  induction items with
  | nil => exact ⟨[], rfl⟩
  | cons item items ih =>
      rw [List.forall_mem_cons] at each
      rcases each.1 with ⟨answer, accepted⟩
      rcases ih each.2 with ⟨kept, went⟩
      exact ⟨_, by rw [filterM_cons, accepted, went]; rfl⟩

/-- What is kept has been accepted, and each item has been looked at. -/
theorem filterM_eq_ok {accept : α → Except ε Bool} {items kept : List α}
    (went : items.filterM accept = .ok kept) :
    kept = items.filter (fun item => (accept item).toOption.getD false) ∧
      ∀ item ∈ items, ∃ answer, accept item = .ok answer := by
  induction items generalizing kept with
  | nil =>
      cases went
      exact ⟨rfl, by simp⟩
  | cons item rest ih =>
      rw [filterM_cons] at went
      rcases bind_eq_ok.mp went with ⟨answer, accepted, went⟩
      cases others : rest.filterM accept with
      | error failure =>
          rw [others] at went
          cases went
      | ok found =>
          rw [others] at went
          cases went
          rcases ih others with ⟨rfl, each⟩
          refine ⟨?_, ?_⟩
          · rw [List.filter_cons, accepted]
            cases answer <;> rfl
          · rw [List.forall_mem_cons]
            exact ⟨⟨answer, accepted⟩, each⟩

end Answers

end Lalr
