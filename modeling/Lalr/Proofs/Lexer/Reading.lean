import Lalr.Lexer.Stream
import Lalr.Proofs.Runs

/-!
# What readers leave behind

A reader that finds a token remembers it as the last one, and a reader that finds
none has come to the end of the text, where it will find none again. This is what
makes it safe to stop between two tokens and to go on later.
-/

namespace Lalr

namespace Cursor

/-- Whether nothing of the text is left. -/
def AtEnd (cursor : Cursor) : Prop := cursor.text.size ≤ cursor.counter.position

/-- What finding a token, or none, makes of a cursor. -/
def Finds (before : Cursor) (found : Option Token) (after : Cursor) : Prop :=
  after.text = before.text ∧
    match found with
    | some token => after.last = some token
    | none => after.last = before.last ∧ after.AtEnd

theorem Finds.last {before after : Cursor} {found : Option Token}
    (finds : before.Finds found after) : after.last = (found <|> before.last) := by
  cases found with
  | some token => simpa using finds.2
  | none => simpa using finds.2.1

end Cursor

namespace Lexer

variable {lexer : Lexer} {standing : Option Standing} {before after : Workspace}
  {cursor next : Cursor} {found : Option Token}

/-- Induction on the tokens that are passed over; none of them is remembered. -/
theorem nextWithin_finds (fuel : Nat) : ∀ {before : Workspace} {cursor : Cursor},
    (lexer.nextWithin standing fuel cursor).Gives before (.ok found, next) after →
      cursor.Finds found next := by
  induction fuel with
  | zero =>
      intro before cursor gives
      simp only [nextWithin, Work.gives_pure, Prod.mk.injEq] at gives
      rcases gives with ⟨⟨answer, rfl⟩, rfl⟩
      split at answer
      next ended =>
        cases answer
        exact ⟨rfl, rfl, ended⟩
      next => cases answer
  | succ fuel ih =>
      intro before cursor gives
      simp only [nextWithin] at gives
      split at gives
      next ended =>
        simp only [Work.gives_pure, Prod.mk.injEq] at gives
        rcases gives with ⟨⟨answer, rfl⟩, rfl⟩
        cases answer
        exact ⟨rfl, rfl, ended⟩
      next =>
        rw [Work.gives_bind] at gives
        rcases gives with ⟨opened, between, _, gives⟩
        cases opened with
        | error failure => simp at gives
        | ok vocabulary =>
            dsimp only at gives
            split at gives
            next => simp at gives
            next stop name _ =>
              rw [Work.gives_bind] at gives
              rcases gives with ⟨called, between', _, gives⟩
              cases called with
              | error failure => simp at gives
              | ok value =>
                  dsimp only at gives
                  split at gives
                  next =>
                    have finds := ih gives
                    exact finds
                  next =>
                    split at gives
                    next token =>
                      simp only [Work.gives_pure, Prod.mk.injEq] at gives
                      rcases gives with ⟨⟨answer, rfl⟩, rfl⟩
                      cases answer
                      exact ⟨rfl, rfl⟩
                    next => simp at gives

theorem next_finds (gives : (lexer.next standing cursor).Gives before (.ok found, next) after) :
    cursor.Finds found next :=
  nextWithin_finds _ gives

/-- At the end of a text no token is found, and nothing happens. -/
theorem next_of_atEnd (ended : cursor.AtEnd) :
    lexer.next standing cursor = pure (.ok none, cursor) := by
  have ended : cursor.text.size ≤ cursor.counter.position := ended
  rcases Nat.eq_zero_or_eq_succ_pred (cursor.text.size + 1 - cursor.counter.position) with
    none | some
  · simp [Lexer.next, none, nextWithin, ended]
  · rw [Lexer.next, some]
    simp [nextWithin, ended]

end Lexer

namespace ContextualLexer

variable {lexer : ContextualLexer} {standing : Option Standing} {before after : Workspace}
  {cursor next : Cursor} {found : Option Token}

/-- What a contextual lexer finds has been found by the lexer of the state. -/
theorem next_eq_ok (gives : (lexer.next standing cursor).Gives before (.ok found, next) after) :
    ∃ place own, standing = some place ∧ assoc? lexer.lexers place.state = some own ∧
      (own.next standing cursor).Gives before (.ok found, next) after := by
  unfold ContextualLexer.next at gives
  split at gives
  next => simp at gives
  next place =>
    split at gives
    next => simp at gives
    next own known =>
      rw [Work.gives_bind] at gives
      rcases gives with ⟨⟨answer, cursor'⟩, between, asked, gives⟩
      split at gives
      next => simp at gives
      next =>
        rcases Work.gives_pure.mp gives with ⟨answer, rfl⟩
        cases answer
        exact ⟨place, own, rfl, known, asked⟩

end ContextualLexer

namespace Reader

variable {reader : Reader} {standing : Option Standing} {before after : Workspace}
  {cursor next : Cursor} {found : Option Token}

theorem next_finds (gives : (reader.next standing cursor).Gives before (.ok found, next) after) :
    cursor.Finds found next := by
  cases reader with
  | basic lexer => exact Lexer.next_finds gives
  | contextual lexer =>
      rcases ContextualLexer.next_eq_ok gives with ⟨_, own, _, _, asked⟩
      exact Lexer.next_finds asked

/-- A reader that has found no token finds none when it is asked again, and nothing happens. -/
theorem next_again (gives : (reader.next standing cursor).Gives before (.ok none, next) after) :
    reader.next standing next = pure (.ok none, next) := by
  have ended : next.AtEnd := (next_finds gives).2.2
  cases reader with
  | basic lexer => exact Lexer.next_of_atEnd ended
  | contextual lexer =>
      rcases ContextualLexer.next_eq_ok gives with ⟨place, own, rfl, known, _⟩
      simp [Reader.next, ContextualLexer.next, known, Lexer.next_of_atEnd ended]

end Reader

end Lalr
