import Lalr.Failure
import Lalr.Journal

/-!
# What a run works on

A run reads and changes a workspace: the forest its values live in, the journal,
and the notes that handlers leave. What has been changed stays changed when the
run fails.
-/

namespace Lalr

/-- What a run reads and changes. `announced` holds the numbers of the lexers that have said which
literals they absorb, and `lexerCount` is the number of lexers made. -/
structure Workspace where
  forest : Forest := {}
  journal : Journal := {}
  notes : List Data := []
  announced : List Nat := []
  lexerCount : Nat := 0
  deriving Inhabited

/-- Steps that cannot fail. -/
abbrev Work := StateM Workspace

/-- Steps that can fail. -/
abbrev Run := ExceptT Failure Work

namespace Work

variable {m : Type → Type} [Monad m] [MonadStateOf Workspace m]

/-- Looks something up in the forest. -/
@[inline] def look {α : Type} (f : Forest → α) : m α := return f (← get).forest

/-- Changes the forest and gives back what the change yields. -/
@[inline] def plant {α : Type} (f : Forest → α × Forest) : m α :=
  modifyGet fun workspace =>
    let (result, forest) := f workspace.forest
    (result, { workspace with forest })

/-- Changes the forest. -/
@[inline] def tend (f : Forest → Forest) : m Unit :=
  modify fun workspace => { workspace with forest := f workspace.forest }

/-- Writes a record into the journal. -/
@[inline] def record (level : Level) (channel : Channel) (message : Unit → String) : m Unit :=
  modify fun workspace =>
    { workspace with journal := workspace.journal.write level channel message }

/-- Leaves a note. -/
@[inline] def note (text : Data) : m Unit :=
  modify fun workspace => { workspace with notes := workspace.notes ++ [text] }

end Work

/-- The result of a computation as the outcome of a run. -/
def Run.lift {α : Type} (result : Except Failure α) : Run α :=
  match result with
  | .ok value => return value
  | .error failure => throw failure

end Lalr
