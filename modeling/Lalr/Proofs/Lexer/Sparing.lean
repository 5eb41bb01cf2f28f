import Lalr.Parser.Basic
import Lalr.Proofs.Confinement
import Lalr.Proofs.Forest.Likeness
import Lalr.Proofs.Lexer.Making
import Lalr.Proofs.Lexer.Purity
import Lalr.Proofs.Parser.Making

/-!
# Lexers that spare the forest

To cut a text into tokens builds no trees and changes none, unless a callback for
tokens does so. This file shows that to pull tokens from a text changes the forest in no
other ways than the callbacks do. In particular, where no callback changes what is there,
nothing is changed.
-/

namespace Lalr

/-- Where positions are kept, all is kept that counts without them. -/
theorem Forest.Preserves.forget {before after : Forest} {changed : List SequenceId}
    (preserves : before.Preserves true after changed) (counts : Bool) :
    before.Preserves counts after changed := by
  cases counts with
  | true => exact preserves
  | false =>
      exact ⟨preserves.toKeeps, fun found kept =>
        ⟨(preserves.seen found kept).1, fun _ => id⟩⟩

/-- Whether work keeps everything that is in the forest. It may add to the forest. -/
structure Work.Sparing {α : Type} (work : Work α) : Prop where
  kept : ∀ {before after answer}, work.Gives before answer after →
    before.forest.Preserves true after.forest []

/-- Whether a handler for tokens keeps everything that is in the forest. -/
def TokenHandler.Sparing (callback : TokenHandler) : Prop := ∀ token, (callback token).run.Sparing

instance : IsPreorder Forest fun before after => before.Preserves true after [] where
  refl forest := .refl forest []
  trans _ _ _ first second := first.trans second

theorem Work.sparing_iff {α : Type} {work : Work α} :
    work.Sparing ↔ work.Confined fun before after => before.Preserves true after [] :=
  ⟨fun sparing => ⟨sparing.kept⟩, fun confined => ⟨confined.changes⟩⟩

variable {allowed : Forest → Forest → Prop} [IsPreorder Forest allowed]

/-- Whether a handler for tokens changes the forest in no other ways than some. -/
def TokenHandler.Confined (allowed : Forest → Forest → Prop) (callback : TokenHandler) : Prop :=
  ∀ token, (callback token).Confined allowed

namespace Lexer

variable {lexer : Lexer} {standing : Option Standing}

/-- Whether the callbacks of a lexer change the forest in no other ways than some. -/
def Confined (allowed : Forest → Forest → Prop) (lexer : Lexer) : Prop :=
  ∀ kind callback, assoc? lexer.callbacks kind = some callback → callback.Confined allowed

theorem openVocabulary_confined (lexer : Lexer) : lexer.openVocabulary.Confined allowed :=
  .of_quiet ⟨fun gives => (openVocabulary_gives gives).2⟩

theorem callBack_confined (confined : lexer.Confined allowed) (vocabulary : Vocabulary)
    (token : Token) : (lexer.callBack vocabulary token).Confined allowed := by
  unfold callBack
  dsimp only
  split
  next callback known =>
    split
    · exact confined _ _ known _
    · exact .pure _
  next => exact .pure _

theorem nextWithin_confined (confined : lexer.Confined allowed) (fuel : Nat) : ∀ cursor : Cursor,
    (lexer.nextWithin standing fuel cursor).Confined allowed := by
  induction fuel with
  | zero => exact fun cursor => .pure _
  | succ fuel ih =>
      intro cursor
      rw [nextWithin]
      split
      next => exact .pure _
      next =>
        refine .bind (openVocabulary_confined lexer) fun opened => ?_
        cases opened with
        | error failure => exact .pure _
        | ok vocabulary =>
            dsimp only
            split
            next => exact .pure _
            next stop name here =>
              refine .bind (callBack_confined confined vocabulary _) fun answer => ?_
              cases answer with
              | error failure => exact .pure _
              | ok value =>
                  dsimp only
                  split
                  next => exact ih _
                  next =>
                    split
                    · exact .pure _
                    · exact .bind (.look _) fun _ => .pure _

theorem next_confined (confined : lexer.Confined allowed) (cursor : Cursor) :
    (lexer.next standing cursor).Confined allowed := nextWithin_confined confined _ cursor

end Lexer

theorem ContextualLexer.next_confined {lexer : ContextualLexer} {standing : Option Standing}
    (root : lexer.root.Confined allowed)
    (confined : ∀ state own, assoc? lexer.lexers state = some own → own.Confined allowed)
    (cursor : Cursor) : (lexer.next standing cursor).Confined allowed := by
  unfold next
  cases standing with
  | none => exact .pure _
  | some place =>
      dsimp only
      split
      next => exact .pure _
      next own known =>
        refine .bind (Lexer.next_confined (confined _ _ known) cursor) fun result => ?_
        split
        · exact .bind (Lexer.next_confined root _) fun _ => .pure _
        · exact .pure _

/-- Whether to pull tokens from a source changes the forest in no other ways than some. -/
def TokenSource.Confined (allowed : Forest → Forest → Prop) (source : TokenSource) : Prop :=
  ∀ standing stream cursor, (source.pull standing stream cursor).Confined allowed

/-- Whether nothing that is in the forest is changed by pulling tokens from a source. -/
def TokenSource.Sparing (source : TokenSource) : Prop :=
  ∀ standing stream cursor, (source.pull standing stream cursor).Sparing

theorem TokenStream.pullWithin_confined {σ : Type} {postLexer : PostLexer}
    {source : σ → Work (Except Failure (Option Token) × σ)}
    (confined : ∀ state, (source state).Confined allowed) (fuel : Nat) :
    ∀ (stream : TokenStream) (state : σ),
      (pullWithin postLexer source fuel stream state).Confined allowed := by
  have ready (fuel : Nat) (stream : TokenStream) (state : σ)
      (go : stream.ready = [] → stream.after = .goOn →
        (pullWithin postLexer source fuel stream state).Confined allowed) :
      (pullWithin postLexer source fuel stream state).Confined allowed := by
    rcases stream with ⟨layout, _ | ⟨token, rest⟩, _ | failure | _⟩
    case nil.goOn => exact go rfl rfl
    all_goals unfold pullWithin; exact .pure _
  induction fuel with
  | zero =>
      intro stream state
      refine ready 0 stream state fun none goesOn => ?_
      unfold pullWithin
      rw [none, goesOn]
      exact .pure _
  | succ fuel ih =>
      intro stream state
      refine ready (fuel + 1) stream state fun none goesOn => ?_
      unfold pullWithin
      rw [none, goesOn]
      refine .bind (confined state) fun pulled => ?_
      split
      · exact .pure _
      · exact ih _ _
      · exact ih _ _

/-- A source is confined if its reader is. -/
theorem TokenSource.confined_of_reader {source : TokenSource}
    (confined : ∀ standing cursor, (source.reader.next standing cursor).Confined allowed) :
    source.Confined allowed := by
  intro standing stream cursor
  unfold pull
  split
  · exact .bind (confined standing cursor) fun _ => .pure _
  · exact TokenStream.pullWithin_confined (confined standing) _ stream cursor

omit [IsPreorder Forest allowed] in
theorem Lexer.confined_of_make {number : Nat} {settings : LexerSettings} {lexer : Lexer}
    (made : Lexer.make number settings = .ok lexer)
    (confined : ∀ kind callback, assoc? settings.callbacks kind = some callback →
      callback.Confined allowed) : lexer.Confined allowed := by
  unfold Confined
  rw [callbacks_of_make made]
  exact confined

/-- The source of a parser is confined if the callbacks that it is made with are. -/
theorem Parser.confined_of_makeSource {options : Options} {settings : LexerSettings}
    {table : Table State} {number count : Nat} {source : TokenSource}
    (made : makeSource options settings table number = .ok (source, count))
    (confined : ∀ kind callback, assoc? settings.callbacks kind = some callback →
      callback.Confined allowed) : source.Confined allowed := by
  unfold makeSource at made
  split at made
  · rcases bind_eq_ok.mp made with ⟨postLexer, _, made⟩
    rcases bind_eq_ok.mp made with ⟨⟨lexer, states⟩, lexed, made⟩
    cases made
    rcases ContextualLexer.make_eq_ok lexed with ⟨rooted, each⟩
    refine TokenSource.confined_of_reader fun standing cursor =>
      ContextualLexer.next_confined (Lexer.confined_of_make rooted confined) ?_ cursor
    intro state own known
    rcases exists_of_mem_right each (mem_of_assoc? known) with ⟨place, _, _, number, own_made⟩
    exact Lexer.confined_of_make own_made confined
  · rcases bind_eq_ok.mp made with ⟨lexer, lexed, made⟩
    rcases bind_eq_ok.mp made with ⟨postLexer, _, made⟩
    cases made
    exact TokenSource.confined_of_reader fun standing cursor =>
      Lexer.next_confined (Lexer.confined_of_make lexed confined) cursor

/-- To pull tokens changes the forest in no other ways than the callbacks of the parser do. -/
theorem Parser.confined_of_make {terminals : List Terminal} {rules : List Rule}
    {table : Table State} {ignored : List Data} {options : Options} {before after : Workspace}
    {parser : Parser}
    (made : (make terminals rules table ignored options).Yields before parser after)
    (confined : ∀ callbacks, options.callbacks = .ok callbacks → ∀ kind callback,
      assoc? callbacks kind = some callback → callback.Confined allowed) :
    parser.source.Confined allowed := by
  rcases assemble_of_make made with ⟨count, assembled, -⟩
  simp only [assemble, bind_eq_ok] at assembled
  rcases assembled with
    ⟨_, _, _, _, _, _, callbacks, called, _, _, ⟨source, number⟩, sourced, _, _,
      _, _, assembled⟩
  cases assembled
  refine confined_of_makeSource sourced (confined callbacks ?_)
  revert called
  cases options.callbacks with
  | error fault =>
      intro called
      cases called
  | ok given =>
      intro called
      exact congrArg Except.ok (Except.ok.inj called)

/-- A parser pulls tokens without changing what is in the forest if its callbacks do not change
it. -/
theorem Parser.sparing_of_make {terminals : List Terminal} {rules : List Rule} {table : Table State}
    {ignored : List Data} {options : Options} {before after : Workspace} {parser : Parser}
    (made : (make terminals rules table ignored options).Yields before parser after)
    (sparing : ∀ callbacks, options.callbacks = .ok callbacks → ∀ kind callback,
      assoc? callbacks kind = some callback → TokenHandler.Sparing callback) :
    parser.source.Sparing := by
  intro standing stream cursor
  refine Work.sparing_iff.mpr (confined_of_make made ?_ standing stream cursor)
  exact fun callbacks found kind callback known token =>
    Work.sparing_iff.mp (sparing callbacks found kind callback known token)

end Lalr
