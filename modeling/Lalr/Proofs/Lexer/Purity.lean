import Lalr.Lexer.Stream
import Lalr.Proofs.Discretion

/-!
# Lexers with pure callbacks

A lexer whose callbacks do nothing but to answer finds the same tokens whenever and
wherever it is asked: neither the workspace nor the state of a parse has a bearing on
what it finds.
-/

namespace Lalr

/-- Whether a handler for tokens does nothing but to answer. -/
def TokenHandler.Pure (callback : TokenHandler) : Prop :=
  ∀ token, ∃ answer, callback token = Run.lift answer

namespace Lexer

variable {lexer : Lexer} {standing : Option Standing} {before after : Workspace}
  {cursor next : Cursor} {found : Option Token}

/-- The vocabulary is the one that has been prepared, and all that happens is that it may be
announced. -/
theorem openVocabulary_gives {answer : Except Failure Vocabulary}
    (gives : lexer.openVocabulary.Gives before answer after) :
    answer = lexer.vocabulary.get.1 ∧ after.Alike before := by
  unfold openVocabulary at gives
  rcases Work.gives_bind.mp gives with ⟨workspace, between, got, gives⟩
  cases got
  split at gives
  · rcases Work.gives_pure.mp gives with ⟨rfl, rfl⟩
    exact ⟨rfl, .refl _⟩
  · rcases Work.gives_bind.mp gives with ⟨_, between, announced, gives⟩
    have alike := (Work.Quiet.forIn fun _ => .bind (.record ..) fun _ => .pure _).alike announced
    split at gives
    · rcases Work.gives_bind.mp gives with ⟨_, _, noted, gives⟩
      cases noted
      rcases Work.gives_pure.mp gives with ⟨rfl, rfl⟩
      exact ⟨rfl, alike.forest, alike.notes⟩
    · rcases Work.gives_pure.mp gives with ⟨rfl, rfl⟩
      exact ⟨rfl, alike⟩

/-- Whether the callbacks of a lexer do nothing but to answer. -/
def Pure (lexer : Lexer) : Prop :=
  ∀ kind callback, assoc? lexer.callbacks kind = some callback → TokenHandler.Pure callback

theorem callBack_eq_lift (pure : lexer.Pure) (vocabulary : Vocabulary) (token : Token) :
    ∃ answer, lexer.callBack vocabulary token = Run.lift answer := by
  unfold callBack
  split
  next callback known =>
    dsimp only
    split
    · exact pure _ _ known _
    · exact ⟨.ok _, rfl⟩
  next => exact ⟨.ok _, rfl⟩

/-- A lexer with pure callbacks finds what it finds in any workspace, in any state of a parse and
under any number. -/
theorem nextWithin_pure (pure : lexer.Pure) (number : Nat) (standing' : Option Standing)
    (fuel : Nat) : ∀ {before before' : Workspace} {cursor : Cursor},
    (lexer.nextWithin standing fuel cursor).Gives before (.ok found, next) after →
      ∃ after', (nextWithin { lexer with number } standing' fuel cursor).Gives before'
        (.ok found, next) after' ∧ after'.Alike before' := by
  induction fuel with
  | zero =>
      intro before before' cursor gives
      rcases Work.gives_pure.mp gives with ⟨answer, _⟩
      exact ⟨before', Work.gives_pure.mpr ⟨answer, rfl⟩, .refl _⟩
  | succ fuel ih =>
      intro before before' cursor gives
      simp only [nextWithin] at gives ⊢
      split at gives
      next ended =>
        rcases Work.gives_pure.mp gives with ⟨answer, _⟩
        rw [if_pos ended]
        exact ⟨before', Work.gives_pure.mpr ⟨answer, rfl⟩, .refl _⟩
      next going =>
        rcases Work.gives_bind.mp gives with ⟨opened, between, opening, gives⟩
        rcases openVocabulary_gives opening with ⟨prepared, _⟩
        have opening' := Work.gives (openVocabulary { lexer with number }) before'
        rcases openVocabulary_gives opening' with ⟨same, alike⟩
        rw [same, show Thunk.get _ = lexer.vocabulary.get from rfl, ← prepared] at opening'
        rw [if_neg going]
        cases opened with
        | error failure => simp at gives
        | ok vocabulary =>
            dsimp only at gives
            split at gives
            next => simp at gives
            next stop name here =>
              rcases Work.gives_bind.mp gives with ⟨called, between', calling, gives⟩
              rcases callBack_eq_lift pure vocabulary (lexer.cut cursor stop name).1 with
                ⟨answer, answers⟩
              have calling' (workspace : Workspace) : Work.Gives (ExceptT.run (callBack
                  { lexer with number } vocabulary (cut { lexer with number } cursor stop name).1))
                  workspace answer workspace := by
                have answers : callBack { lexer with number } vocabulary
                  (cut { lexer with number } cursor stop name).1 = Run.lift answer := answers
                rw [answers, Run.run_lift]
                exact Work.gives_pure.mpr ⟨rfl, rfl⟩
              rw [answers, Run.run_lift] at calling
              rcases Work.gives_pure.mp calling with ⟨rfl, rfl⟩
              cases answer with
              | error failure => simp at gives
              | ok value =>
                  dsimp only at gives
                  split at gives
                  next skipped =>
                    rcases ih gives with ⟨after', went, alike'⟩
                    refine ⟨after', Work.gives_bind.mpr ⟨_, _, opening', ?_⟩,
                      alike'.trans alike⟩
                    simp only [here]
                    refine Work.gives_bind.mpr ⟨_, _, calling' _, ?_⟩
                    simp only [if_pos skipped]
                    exact went
                  next kept =>
                    split at gives
                    next token =>
                      rcases Work.gives_pure.mp gives with ⟨answer, _⟩
                      refine ⟨_, Work.gives_bind.mpr ⟨_, _, opening', ?_⟩, alike⟩
                      simp only [here]
                      refine Work.gives_bind.mpr ⟨_, _, calling' _, ?_⟩
                      simp only [if_neg kept]
                      exact Work.gives_pure.mpr ⟨answer, rfl⟩
                    next => simp at gives

theorem next_pure (pure : lexer.Pure)
    (gives : (lexer.next standing cursor).Gives before (.ok found, next) after) (number : Nat)
    (standing' : Option Standing) (before' : Workspace) :
    ∃ after', (Lexer.next { lexer with number } standing' cursor).Gives before' (.ok found, next)
      after' ∧ after'.Alike before' :=
  nextWithin_pure pure number standing' _ gives

end Lexer

end Lalr
