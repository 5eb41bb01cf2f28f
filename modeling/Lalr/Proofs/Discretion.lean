import Lalr.Lexer.Basic
import Lalr.Shaping.Reduction
import Lalr.Proofs.Machine.Agreement
import Lalr.Proofs.Runs

/-!
# Discretion

What is written down about a parse has no bearing on it. Work is discreet if it does
the same in workspaces that differ in the journal and in what is known of lexers only.
All that a parser does on its own is discreet, and handlers are if they keep to the
forest and to notes.
-/

namespace Lalr

/-- Whether two workspaces hold the same forest and the same notes. -/
structure Workspace.Alike (first second : Workspace) : Prop where
  forest : first.forest = second.forest
  notes : first.notes = second.notes

namespace Workspace.Alike

variable {first second third : Workspace}

theorem refl (workspace : Workspace) : workspace.Alike workspace := ⟨rfl, rfl⟩

theorem symm (alike : first.Alike second) : second.Alike first :=
  ⟨alike.forest.symm, alike.notes.symm⟩

theorem trans (alike : first.Alike second) (alike' : second.Alike third) : first.Alike third :=
  ⟨alike.forest.trans alike'.forest, alike.notes.trans alike'.notes⟩

end Workspace.Alike

variable {α β : Type}

/-- Whether two kinds of work do the same in workspaces that are alike. -/
abbrev Work.Agree (first second : Work α) : Prop := Agrees Workspace.Alike first second

namespace Work.Agree

theorem look (look : Forest → α) : Work.Agree (Work.look look) (Work.look look) :=
  ⟨fun _ _ alike => ⟨congrArg look alike.forest, alike⟩⟩

theorem plant (plant : Forest → α × Forest) : Work.Agree (Work.plant plant)
    (Work.plant plant) := by
  constructor
  intro before before' alike
  have planted := congrArg plant alike.forest
  refine ⟨?_, ?_, alike.notes⟩
  · exact (congrArg Prod.fst planted :)
  · exact (congrArg Prod.snd planted :)

theorem tend (tend : Forest → Forest) : Work.Agree (Work.tend tend) (Work.tend tend) :=
  ⟨fun _ _ alike => ⟨rfl, congrArg tend alike.forest, alike.notes⟩⟩

/-- It does not matter what is written into the journal. -/
theorem record (level level' : Level) (channel channel' : Channel)
    (message message' : Unit → String) :
    Work.Agree (Work.record level channel message) (Work.record level' channel' message') :=
  ⟨fun _ _ alike => ⟨rfl, alike.forest, alike.notes⟩⟩

/-- What agrees gives the same answer and leaves workspaces that are alike. -/
theorem gives {first second : Work α} (agree : first.Agree second)
    {before before' after : Workspace} {answer : α} (alike : before.Alike before')
    (gives : first.Gives before answer after) :
    ∃ after', second.Gives before' answer after' ∧ after.Alike after' := by
  rcases agree.run _ _ alike with ⟨same, alike⟩
  unfold Work.Gives at gives
  rw [gives] at same alike
  have given := second.gives before'
  rw [← same] at given
  exact ⟨_, given, alike⟩

end Work.Agree

/-- Whether work leaves the forest and the notes as they are. -/
structure Work.Quiet (work : Work α) : Prop where
  alike : ∀ {before after answer}, work.Gives before answer after → after.Alike before

namespace Work.Quiet

theorem pure (value : α) : Work.Quiet (Pure.pure value) := by
  constructor
  intro before after answer gives
  rcases gives_pure.mp gives with ⟨_, rfl⟩
  exact .refl _

theorem bind {work : Work α} {rest : α → Work β} (quiet : work.Quiet)
    (go : ∀ value, (rest value).Quiet) : Work.Quiet (work >>= rest) := by
  constructor
  intro before after answer gives
  rcases gives_bind.mp gives with ⟨value, between, first, gives⟩
  exact ((go value).alike gives).trans (quiet.alike first)

theorem record (level : Level) (channel : Channel) (message : Unit → String) :
    Work.Quiet (Work.record level channel message) := by
  constructor
  intro before after answer gives
  cases gives
  exact ⟨rfl, rfl⟩

theorem forIn {items : List β} {step : β → PUnit → Work (ForInStep PUnit)}
    (quiet : ∀ item, (step item ⟨⟩).Quiet) : Work.Quiet (forIn items PUnit.unit step) := by
  induction items with
  | nil => exact pure _
  | cons item items ih =>
      rw [List.forIn_cons]
      refine bind (quiet item) fun next => ?_
      cases next with
      | done => exact pure _
      | yield => exact ih

end Work.Quiet

/-- Whether two runs do the same in workspaces that are alike. -/
def Run.Agree (first second : Run α) : Prop := Agrees Workspace.Alike first.run second.run

/-- Whether a run does the same in all workspaces that are alike. -/
def Run.Discreet (run : Run α) : Prop := run.Agree run

namespace Run.Agree

theorem pure (value : α) : Run.Agree (Pure.pure value) (Pure.pure value) := Agrees.pure _

theorem throw (failure : Failure) :
    Run.Agree (MonadExcept.throw failure : Run α) (MonadExcept.throw failure) :=
  Agrees.pure _

theorem lift (result : Except Failure α) : Run.Agree (Run.lift result) (Run.lift result) := by
  cases result with
  | error failure => exact throw failure
  | ok value => exact pure value

theorem bind {first second : Run α} {rest rest' : α → Run β} (agree : first.Agree second)
    (go : ∀ value, (rest value).Agree (rest' value)) :
    Run.Agree (first >>= rest) (second >>= rest') := by
  unfold Run.Agree
  rw [ExceptT.run_bind, ExceptT.run_bind]
  refine Agrees.bind agree fun answer => ?_
  cases answer with
  | error failure => exact .pure _
  | ok value => exact go value

theorem work {first second : Work α} (agree : first.Agree second) :
    Run.Agree (liftM first) (liftM second) :=
  Agrees.bind agree fun _ => .pure _

theorem look (look : Forest → α) : Run.Agree (Work.look look) (Work.look look) :=
  work (.look look)

theorem plant (plant : Forest → α × Forest) : Run.Agree (Work.plant plant) (Work.plant plant) :=
  work (.plant plant)

theorem tend (tend : Forest → Forest) : Run.Agree (Work.tend tend) (Work.tend tend) :=
  work (.tend tend)

end Run.Agree

/-- Whether a handler does the same in all workspaces that are alike. -/
def Handler.Discreet (handler : Handler) : Prop := ∀ values, (handler.call values).Discreet

/-- Whether all that a transformer does about trees and tokens that have a handler, and about trees
that have none, is discreet. -/
structure Transformer.Discreet (transformer : Transformer) : Prop where
  handlers : ∀ name handler, transformer.handlerFor? name = some handler → handler.Discreet
  fallback : ∀ fallback, transformer.fallback = some fallback →
    ∀ values, (fallback values).Discreet

theorem Handler.Discreet.apply {handler : Handler} (discreet : handler.Discreet) (label : String)
    (children : SequenceId) (span : Option SpanId) :
    (handler.apply label children span).Discreet := by
  refine Run.Agree.bind (Run.Agree.work ?_) discreet
  unfold Handler.arguments
  cases handler.convention with
  | none => exact .pure _
  | some convention =>
      cases convention with
      | span => exact .pure _
      | inline => exact .look _
      | spanInline => exact .look _
      | labelled => exact .look _
      | tree => exact .bind (Work.Agree.plant _) fun _ => .pure _

theorem Transformer.Discreet.rebuild {transformer : Transformer} (discreet : transformer.Discreet)
    (label : String) (children : SequenceId) (span : Option SpanId) :
    (transformer.rebuild label children span).Discreet := by
  unfold Transformer.rebuild
  split
  next fallback has => exact discreet.fallback fallback has _
  next => exact Run.Agree.bind (.plant _) fun _ => .pure _

end Lalr
