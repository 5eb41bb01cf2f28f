import Lalr.Parser.Basic
import Lalr.Proofs.Lexer.Making
import Lalr.Proofs.Lexer.Purity
import Lalr.Proofs.Pairs

/-!
# Lexers that are made twice

A lexer that is made again has another number, under which it announces what it has
prepared, and is the same otherwise. If its callbacks are pure, it finds the same tokens,
whatever there is in the workspace. This carries over to lexers that know the state of the
parse, and to streams behind a post-lexer.
-/

namespace Lalr

/-- Whether two lexers are the same apart from their numbers. -/
def Lexer.Same (lexer lexer' : Lexer) : Prop := ∃ number, lexer' = { lexer with number }

theorem Lexer.same_of_make {settings : LexerSettings} {number number' : Nat}
    {lexer lexer' : Lexer} (made : make number settings = .ok lexer)
    (made' : make number' settings = .ok lexer') : lexer.Same lexer' :=
  ⟨number', (Except.ok.inj ((make_number made number').symm.trans made')).symm⟩

namespace ContextualLexer

/-- Whether two lexers are the same in each state apart from their numbers. -/
structure Same (lexer lexer' : ContextualLexer) : Prop where
  lexers : List.Forall₂ (fun entry entry' => entry.1 = entry'.1 ∧ entry.2.Same entry'.2)
    lexer.lexers lexer'.lexers
  root : lexer.root.Same lexer'.root

theorem same_of_make {settings : LexerSettings} {number number' count count' : Nat}
    {states : List (State × List String)} {alwaysAccepted : List String}
    {lexer lexer' : ContextualLexer}
    (made : make number settings states alwaysAccepted = .ok (lexer, count))
    (made' : make number' settings states alwaysAccepted = .ok (lexer', count')) :
    lexer.Same lexer' := by
  rcases make_eq_ok made with ⟨root, each⟩
  rcases make_eq_ok made' with ⟨root', each'⟩
  refine ⟨?_, Lexer.same_of_make root root'⟩
  clear made made' root root'
  generalize lexer.lexers = lexers at each
  generalize lexer'.lexers = lexers' at each'
  induction each generalizing lexers' with
  | nil =>
      cases each'
      exact .nil
  | cons first _ ih =>
      cases each' with
      | cons first' others' =>
          rcases first.2 with ⟨number, own⟩
          rcases first'.2 with ⟨number', own'⟩
          exact .cons ⟨first.1.symm.trans first'.1, Lexer.same_of_make own own'⟩ (ih _ others')

end ContextualLexer

/-- Whether two readers are the same apart from the numbers of lexers. -/
inductive Reader.Same : Reader → Reader → Prop
  | basic {lexer lexer' : Lexer} (same : lexer.Same lexer') :
      Reader.Same (.basic lexer) (.basic lexer')
  | contextual {lexer lexer' : ContextualLexer} (same : lexer.Same lexer') :
      Reader.Same (.contextual lexer) (.contextual lexer')

/-- Whether the callbacks of all lexers that a parse is read with are pure. -/
def Reader.Pure : Reader → Prop
  | .basic lexer => lexer.Pure
  | .contextual lexer => ∀ entry ∈ lexer.lexers, entry.2.Pure

variable {standing : Option Standing} {before after : Workspace} {cursor cursor' : Cursor}
  {found : Option Token}

/-- A reader with pure callbacks finds the same token when it is made again, in any workspace. -/
theorem Reader.Same.next {reader reader' : Reader} (same : reader.Same reader')
    (pure : reader.Pure)
    (gives : (reader.next standing cursor).Gives before (.ok found, cursor') after)
    (before' : Workspace) :
    ∃ after', (reader'.next standing cursor).Gives before' (.ok found, cursor') after' := by
  cases same with
  | basic same =>
      rcases same with ⟨number, rfl⟩
      rcases Lexer.next_pure pure gives number standing before' with ⟨after', gives', _⟩
      exact ⟨after', gives'⟩
  | @contextual lexer lexer' same =>
      have gives : (lexer.next standing cursor).Gives before (.ok found, cursor') after := gives
      show ∃ after', (lexer'.next standing cursor).Gives before' (.ok found, cursor') after'
      unfold ContextualLexer.next at gives ⊢
      cases standing with
      | none => cases (Work.gives_pure.mp gives).1
      | some place =>
          dsimp only at gives ⊢
          have related := assoc?_alike same.lexers place.state
          cases known : assoc? lexer.lexers place.state with
          | none =>
              rw [known] at gives
              cases (Work.gives_pure.mp gives).1
          | some own =>
              rw [known] at gives related
              generalize assoc? lexer'.lexers place.state = own' at related
              cases related with
              | some same =>
                  rcases same with ⟨number, rfl⟩
                  have quiet : own.Pure := pure _ (mem_of_assoc? known)
                  rcases Work.gives_bind.mp gives with
                    ⟨⟨answer, next⟩, between, went, gives⟩
                  have ended : (answer, next) = (.ok found, cursor') := by
                    split at gives
                    next =>
                      rcases Work.gives_bind.mp gives with ⟨⟨answer, last⟩, _, _, gives⟩
                      cases (Work.gives_pure.mp gives).1
                    next => exact (Work.gives_pure.mp gives).1
                  cases ended
                  rcases Lexer.next_pure quiet went number (some place) before' with
                    ⟨after', went', _⟩
                  exact ⟨after',
                    Work.gives_bind.mpr ⟨_, _, went', Work.gives_pure.mpr ⟨rfl, rfl⟩⟩⟩

/-- Streams over sources that find the same tokens hand out the same tokens. Induction on the number
of tokens that are taken from the source. -/
theorem TokenStream.pullWithin_same {σ : Type} {postLexer : PostLexer}
    {source source' : σ → Work (Except Failure (Option Token) × σ)}
    (same : ∀ {state state' : σ} {found : Option Token} {before after : Workspace},
      (source state).Gives before (.ok found, state') after →
        ∀ before', ∃ after', (source' state).Gives before' (.ok found, state') after')
    (fuel : Nat) : ∀ {stream stream' : TokenStream} {state state' : σ} {before : Workspace},
      (pullWithin postLexer source fuel stream state).Gives before
        (.ok found, stream', state') after →
        ∀ before', ∃ after', (pullWithin postLexer source' fuel stream state).Gives before'
          (.ok found, stream', state') after' := by
  induction fuel with
  | zero =>
      intro stream stream' state state' before gives before'
      unfold pullWithin at gives ⊢
      split at gives <;>
        exact ⟨before', Work.gives_pure.mpr ⟨(Work.gives_pure.mp gives).1, rfl⟩⟩
  | succ fuel ih =>
      intro stream stream' state state' before gives before'
      unfold pullWithin at gives ⊢
      split at gives
      next => exact ⟨before', Work.gives_pure.mpr ⟨(Work.gives_pure.mp gives).1, rfl⟩⟩
      next => exact ⟨before', Work.gives_pure.mpr ⟨(Work.gives_pure.mp gives).1, rfl⟩⟩
      next => cases (Work.gives_pure.mp gives).1
      next =>
        rcases Work.gives_bind.mp gives with ⟨⟨answer, next⟩, between, pulled, gives⟩
        rcases answer with failure | _ | token
        · cases (Work.gives_pure.mp gives).1
        · rcases same pulled before' with ⟨between', pulled'⟩
          rcases ih gives between' with ⟨after', went⟩
          exact ⟨after', Work.gives_bind.mpr ⟨_, _, pulled', went⟩⟩
        · rcases same pulled before' with ⟨between', pulled'⟩
          rcases ih gives between' with ⟨after', went⟩
          exact ⟨after', Work.gives_bind.mpr ⟨_, _, pulled', went⟩⟩

/-- A source with pure callbacks finds the same token when it is made again, in any workspace. -/
theorem TokenSource.pull_same {source source' : TokenSource}
    (readers : source.reader.Same source'.reader) (pure : source.reader.Pure)
    (postLexers : source'.postLexer = source.postLexer) {stream stream' : TokenStream}
    (gives : (source.pull standing stream cursor).Gives before (.ok found, stream', cursor') after)
    (before' : Workspace) :
    ∃ after', (source'.pull standing stream cursor).Gives before' (.ok found, stream', cursor')
      after' := by
  unfold pull at gives ⊢
  rw [postLexers]
  cases chosen : source.postLexer with
  | none =>
      rw [chosen] at gives
      rcases Work.gives_bind.mp gives with ⟨⟨answer, next⟩, between, went, gives⟩
      rcases Work.gives_pure.mp gives with ⟨ended, _⟩
      cases ended
      rcases readers.next pure went before' with ⟨after', went'⟩
      exact ⟨after', Work.gives_bind.mpr ⟨_, _, went', Work.gives_pure.mpr ⟨rfl, rfl⟩⟩⟩
  | some postLexer =>
      rw [chosen] at gives
      exact TokenStream.pullWithin_same (fun went => readers.next pure went) _ gives before'

namespace Parser

variable {options options' : Options} {settings : LexerSettings} {table : Table State}
  {number number' count count' : Nat} {source source' : TokenSource}

/-- Sources that are made for the same lexers and the same post-lexer are the same apart from
numbers. -/
theorem same_of_makeSource (contextual : options'.contextual = options.contextual)
    (postLexer : options'.postLexer = options.postLexer)
    (made : makeSource options settings table number = .ok (source, count))
    (made' : makeSource options' settings table number' = .ok (source', count')) :
    source.reader.Same source'.reader ∧ source'.postLexer = source.postLexer := by
  unfold makeSource at made made'
  rw [contextual, postLexer] at made'
  split at made
  next knows =>
    rw [if_pos knows] at made'
    rcases bind_eq_ok.mp made with ⟨chosen, choose, made⟩
    rcases bind_eq_ok.mp made with ⟨⟨lexer, others⟩, lexed, made⟩
    rcases bind_eq_ok.mp made' with ⟨chosen', choose', made'⟩
    rcases bind_eq_ok.mp made' with ⟨⟨lexer', others'⟩, lexed', made'⟩
    cases made
    cases made'
    rcases Except.ok.inj (choose.symm.trans choose') with rfl
    exact ⟨.contextual (ContextualLexer.same_of_make lexed lexed'), rfl⟩
  next knowsNot =>
    rw [if_neg knowsNot] at made'
    rcases bind_eq_ok.mp made with ⟨lexer, lexed, made⟩
    rcases bind_eq_ok.mp made with ⟨chosen, choose, made⟩
    rcases bind_eq_ok.mp made' with ⟨lexer', lexed', made'⟩
    rcases bind_eq_ok.mp made' with ⟨chosen', choose', made'⟩
    cases made
    cases made'
    rcases Except.ok.inj (choose.symm.trans choose') with rfl
    exact ⟨.basic (Lexer.same_of_make lexed lexed'), rfl⟩

/-- The lexers of a source have the callbacks that it is made with. -/
theorem pure_of_makeSource
    (made : makeSource options settings table number = .ok (source, count))
    (pure : ∀ kind callback, assoc? settings.callbacks kind = some callback →
      TokenHandler.Pure callback) : source.reader.Pure := by
  have lexed {number : Nat} {settings' : LexerSettings} {lexer : Lexer}
      (made : Lexer.make number settings' = .ok lexer)
      (same : settings'.callbacks = settings.callbacks) : lexer.Pure := by
    unfold Lexer.Pure
    rw [Lexer.callbacks_of_make made, same]
    exact pure
  unfold makeSource at made
  split at made
  next =>
    rcases bind_eq_ok.mp made with ⟨chosen, choose, made⟩
    rcases bind_eq_ok.mp made with ⟨⟨lexer, others⟩, contextual, made⟩
    cases made
    intro entry listed
    rcases exists_of_mem_right (ContextualLexer.make_eq_ok contextual).2 listed with
      ⟨place, _, _, number, own⟩
    exact lexed own rfl
  next =>
    rcases bind_eq_ok.mp made with ⟨lexer, basic, made⟩
    rcases bind_eq_ok.mp made with ⟨chosen, choose, made⟩
    cases made
    exact lexed basic rfl

end Parser

end Lalr
