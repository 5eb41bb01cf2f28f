import Lalr.Proofs.Parser.Blaming
import Lalr.Proofs.Parser.Sorted
import Lalr.Proofs.Regex.Leading

/-!
# Tokens cover their text

The tokens that a reader cuts off a text lie in it one after another, each with the text that
it has there, and all that is left out between them has been matched by terminals that are
ignored. It does not matter in which states a parse stands meanwhile.
-/

namespace Lalr

/-- Whether a token is the text between two positions, which is not empty. -/
structure Token.Cuts (token : Token) (text : Array Char) (start stop : Nat) : Prop where
  starts : token.place.startPos = some start
  stops : token.place.endPos = some stop
  proper : start < stop
  inside : stop ≤ text.size
  text : token.text = String.ofList (text.extract start stop).toList

theorem Token.Cuts.text_ne {token : Token} {text : Array Char} {start stop : Nat}
    (cuts : token.Cuts text start stop) : token.text ≠ "" := by
  intro empty
  have size : (text.extract start stop).size = 0 := by
    rw [← Array.length_toList, String.ofList_eq_empty_iff.mp (cuts.text.symm.trans empty)]
    rfl
  have proper := cuts.proper
  have inside := cuts.inside
  rw [Array.size_extract] at size
  omega

namespace Lexer

variable {lexer : Lexer} {vocabulary : Vocabulary} {standing : Option Standing}
  {cursor next : Cursor} {before after : Workspace} {answer : Except Failure (Option Token)}

theorem position_cut_of_le (lexer : Lexer) {cursor : Cursor} {stop : Nat} (name : String)
    (later : cursor.counter.position ≤ stop) (inside : stop ≤ cursor.text.size) :
    (lexer.cut cursor stop name).2.counter.position = stop := by
  rw [position_cut]
  omega

/-- Whether a lexer calls nothing back, and blames no text if its vocabulary cannot be prepared. -/
structure Quiet (lexer : Lexer) : Prop where
  silent : lexer.callbacks = []
  prepared : Unstuck lexer.vocabulary.get.1

theorem Steady.quiet (steady : lexer.Steady) : lexer.Quiet := ⟨steady.silent, steady.prepared⟩

theorem quiet_of_make {number : Nat} {settings : LexerSettings}
    (made : make number settings = .ok lexer) (silent : settings.callbacks = []) : lexer.Quiet := by
  refine ⟨(callbacks_of_make made).trans silent, ?_⟩
  rcases make_eq_ok.mp made with ⟨_, ordered, _, rfl⟩
  exact Vocabulary.prepare_unstuck []

/-- A lexer that finds a token or is stuck has prepared its vocabulary, and so has one that comes to
the end of the text from before it. -/
theorem exists_prepared (quiet : lexer.Quiet)
    (gives : (lexer.next standing cursor).Gives before (answer, next) after)
    (tells : (∃ found, answer = .ok found) ∨ ∃ stuck, answer = .error (.stuckText stuck)) :
    (answer = .ok none ∧ cursor.AtEnd ∧ next = cursor) ∨
      ∃ vocabulary, lexer.vocabulary.get.1 = .ok vocabulary ∧
        lexer.find vocabulary standing cursor = (answer, next) := by
  by_cases ended : cursor.AtEnd
  · rw [next_of_atEnd ended] at gives
    cases (Work.gives_pure.mp gives).1
    exact .inl ⟨rfl, ended, rfl⟩
  · cases prepared : lexer.vocabulary.get.1 with
    | ok vocabulary =>
        rcases next_eq_find quiet.silent prepared standing before cursor with ⟨after', finds, _⟩
        exact .inr ⟨vocabulary, rfl, (gives.unique finds).1.symm⟩
    | error failure =>
        have innocent := quiet.prepared failure prepared
        rcases next_of_unprepared prepared (Nat.not_le.mp ended) standing before with
          ⟨_, fails, _⟩
        cases (gives.unique fails).1
        rcases tells with ⟨_, same⟩ | ⟨_, same⟩
        · cases same
        · cases same
          cases innocent

end Lexer

/-- Where the text is blamed, the blame is what the lexer of the state has said. -/
theorem ContextualLexer.stuck_of_blame {stuck stuck' : StuckText} {history : Option (List Token)}
    {answer : Except Failure (Option Token)}
    (same : blame stuck history answer = .stuckText stuck') :
    stuck' = stuck := by
  unfold blame at same
  split at same
  next => cases same
  next =>
    cases same
    rfl
  next =>
    cases same
    rfl
  next failure other => exact absurd same (other stuck')

namespace Reader

variable {reader : Reader} {text : Array Char} {standing : Option Standing}
  {cursor next : Cursor} {before after : Workspace} {answer : Except Failure (Option Token)}

/-- The positions that are reached from a position by passing over matches of ignored terminals. -/
inductive Skips (reader : Reader) (text : Array Char) (first : Nat) : Nat → Prop
  | nothing : Skips reader text first first
  | ignored {lexer : Lexer} {vocabulary : Vocabulary} {position stop : Nat} {name : String}
      (skips : Skips reader text first position) (member : lexer ∈ reader.lexers)
      (prepared : lexer.vocabulary.get.1 = .ok vocabulary) (proper : position < stop)
      (inside : stop ≤ text.size)
      (found : vocabulary.scanner.matchAt text position = some (stop, name))
      (ignored : name ∈ lexer.ignored) : Skips reader text first stop

theorem Skips.trans {first middle last : Nat} (skips : reader.Skips text first middle)
    (further : reader.Skips text middle last) : reader.Skips text first last := by
  induction further with
  | nothing => exact skips
  | ignored _ member prepared proper inside found ignored ih =>
      exact .ignored ih member prepared proper inside found ignored

/-- Where nothing is ignored nothing is skipped. -/
theorem Skips.eq {first last : Nat} (skips : reader.Skips text first last)
    (none : ∀ lexer ∈ reader.lexers, lexer.ignored = []) : last = first := by
  cases skips with
  | nothing => rfl
  | ignored _ member _ _ _ _ ignored =>
      rw [none _ member] at ignored
      cases ignored

/-- What an answer of a reader says about the text after a cursor: a token is cut off there, or all
is skipped up to the end, or up to the position that the reader is stuck at. -/
def Tells (reader : Reader) (cursor : Cursor) (answer : Except Failure (Option Token))
    (next : Cursor) : Prop :=
  match answer with
  | .ok (some token) =>
    next.text = cursor.text ∧ ∃ start,
      reader.Skips cursor.text cursor.counter.position start ∧
      token.Cuts cursor.text start next.counter.position
  | .ok none => reader.Skips cursor.text cursor.counter.position cursor.text.size
  | .error (.stuckText stuck) =>
    reader.Skips cursor.text cursor.counter.position stuck.position ∧
      stuck.position < cursor.text.size
  | .error _ => True

/-- What is told about the text from a later position on is told about the text before it as
well. -/
theorem Tells.sooner {middle : Cursor} (tells : reader.Tells middle answer next)
    (text : middle.text = cursor.text)
    (skips : reader.Skips cursor.text cursor.counter.position middle.counter.position) :
    reader.Tells cursor answer next := by
  unfold Tells at tells ⊢
  rw [text] at tells
  match answer, tells with
  | .ok (some token), ⟨same, start, further, cuts⟩ =>
      exact ⟨same, start, skips.trans further, cuts⟩
  | .ok none, further => exact skips.trans further
  | .error failure, tells =>
      cases failure with
      | stuckText stuck => exact ⟨skips.trans tells.1, tells.2⟩
      | _ => trivial

/-- What a lexer of a reader finds tells about the text. Induction on the tokens that are passed
over. -/
theorem tells_of_findWithin {lexer : Lexer} {vocabulary : Vocabulary}
    (member : lexer ∈ reader.lexers) (prepared : lexer.vocabulary.get.1 = .ok vocabulary)
    (consuming : vocabulary.scanner.Consuming) (fuel : Nat) : ∀ {cursor : Cursor},
    cursor.counter.position ≤ cursor.text.size →
      reader.Tells cursor (lexer.findWithin vocabulary standing fuel cursor).1
        (lexer.findWithin vocabulary standing fuel cursor).2 := by
  have atEnd {cursor : Cursor} (inside : cursor.counter.position ≤ cursor.text.size)
      (ended : cursor.text.size ≤ cursor.counter.position) :
      reader.Tells cursor (.ok none) cursor := by
    unfold Tells
    rw [Nat.le_antisymm ended inside]
    exact .nothing
  induction fuel with
  | zero =>
      intro cursor inside
      rw [Lexer.findWithin]
      by_cases ended : cursor.text.size ≤ cursor.counter.position
      · rw [if_pos ended]
        exact atEnd inside ended
      · rw [if_neg ended]
        trivial
  | succ fuel ih =>
      intro cursor inside
      rw [Lexer.findWithin]
      by_cases ended : cursor.text.size ≤ cursor.counter.position
      · rw [if_pos ended]
        exact atEnd inside ended
      · rw [if_neg ended]
        cases found : vocabulary.scanner.matchAt cursor.text cursor.counter.position with
        | none => exact ⟨.nothing, Nat.not_le.mp ended⟩
        | some match_ =>
            rcases match_ with ⟨stop, name⟩
            have proper := consuming _ _ _ _ found
            have within := (Scanner.bounded_of_matchAt found).2 inside
            have moved := lexer.position_cut_of_le name (Nat.le_of_lt proper) within
            dsimp only
            split
            next ignored =>
              rw [List.contains_iff_mem] at ignored
              refine (ih (by rw [moved]; exact within)).sooner rfl ?_
              rw [moved]
              exact .ignored .nothing member prepared proper within found ignored
            next =>
              refine ⟨rfl, _, .nothing, rfl, rfl, ?_, ?_, ?_⟩
              · exact lt_of_lt_of_eq proper moved.symm
              · exact le_of_eq_of_le moved within
              · show cursor.slice _ stop = _
                rw [show (lexer.found vocabulary cursor stop name).2.counter.position = stop
                  from moved]
                rfl

/-- What a reader finds, or is stuck at, one of its lexers has found or is stuck at. -/
theorem exists_lexer
    (gives : (reader.next standing cursor).Gives before (answer, next) after)
    (tells : (∃ found, answer = .ok found) ∨ ∃ stuck, answer = .error (.stuckText stuck)) :
    ∃ lexer ∈ reader.lexers, ∃ met between,
      (lexer.next standing cursor).Gives before (answer, met) between ∧
        ∀ found, answer = .ok found → met = next := by
  cases reader with
  | basic lexer =>
      exact ⟨lexer, List.mem_singleton_self _, next, after, gives, fun _ _ => rfl⟩
  | contextual lexer =>
      unfold Reader.next ContextualLexer.next at gives
      dsimp only at gives
      split at gives
      next =>
        cases (Work.gives_pure.mp gives).1
        rcases tells with ⟨_, same⟩ | ⟨_, same⟩ <;> cases same
      next place =>
        split at gives
        next =>
          cases (Work.gives_pure.mp gives).1
          rcases tells with ⟨_, same⟩ | ⟨_, same⟩ <;> cases same
        next own known =>
          have member : own ∈ (Reader.contextual lexer).lexers :=
            List.mem_cons_of_mem _ (List.mem_map.mpr ⟨_, mem_of_assoc? known, rfl⟩)
          rcases Work.gives_bind.mp gives with ⟨⟨answer', met⟩, between, asked, gives⟩
          split at gives
          next stuck met' same =>
            cases same
            rcases Work.gives_bind.mp gives with ⟨⟨answer'', last⟩, between', asked', gives⟩
            cases (Work.gives_pure.mp gives).1
            rcases tells with ⟨_, same⟩ | ⟨stuck', same⟩
            · cases same
            · have kept := ContextualLexer.stuck_of_blame (Except.error.inj same)
              rw [same, kept]
              exact ⟨own, member, met, between, asked, fun _ same => nomatch same⟩
          next =>
            cases (Work.gives_pure.mp gives).1
            exact ⟨own, member, next, between, asked, fun _ _ => rfl⟩

/-- What a reader finds, or is stuck at, one of its lexers finds with its vocabulary, unless there
is nothing left of the text. -/
theorem exists_find (quiet : ∀ lexer ∈ reader.lexers, lexer.Quiet)
    (gives : (reader.next standing cursor).Gives before (answer, next) after)
    (tells : (∃ found, answer = .ok found) ∨ ∃ stuck, answer = .error (.stuckText stuck)) :
    (answer = .ok none ∧ cursor.AtEnd) ∨
      ∃ lexer ∈ reader.lexers, ∃ vocabulary met, lexer.vocabulary.get.1 = .ok vocabulary ∧
        lexer.find vocabulary standing cursor = (answer, met) ∧
          ∀ found, answer = .ok found → met = next := by
  rcases exists_lexer gives tells with ⟨lexer, member, met, between, asked, same⟩
  rcases Lexer.exists_prepared (quiet lexer member) asked tells with
    ⟨none, ended, _⟩ | ⟨vocabulary, prepared, found⟩
  · exact .inl ⟨none, ended⟩
  · exact .inr ⟨lexer, member, vocabulary, met, prepared, found, same⟩

/-- What a reader of steady lexers answers tells about the text. -/
theorem tells_of_next (steady : ∀ lexer ∈ reader.lexers, lexer.Steady)
    (inside : cursor.counter.position ≤ cursor.text.size)
    (gives : (reader.next standing cursor).Gives before (answer, next) after) :
    reader.Tells cursor answer next := by
  by_cases tells : (∃ found, answer = .ok found) ∨ ∃ stuck, answer = .error (.stuckText stuck)
  · rcases exists_find (fun lexer member => (steady lexer member).quiet) gives tells with
      ⟨rfl, ended⟩ | ⟨lexer, member, vocabulary, met, prepared, found, same⟩
    · unfold Tells
      rw [← Nat.le_antisymm inside ended]
      exact .nothing
    · have told : reader.Tells cursor (lexer.find vocabulary standing cursor).1
          (lexer.find vocabulary standing cursor).2 :=
        tells_of_findWithin member prepared ((steady _ member).consuming _ prepared) _ inside
      rw [found] at told
      rcases tells with ⟨found, rfl⟩ | ⟨stuck, rfl⟩
      · exact same _ rfl ▸ told
      · exact told
  · unfold Tells
    split
    · exact absurd (.inl ⟨_, rfl⟩) tells
    · exact absurd (.inl ⟨_, rfl⟩) tells
    · exact absurd (.inr ⟨_, rfl⟩) tells
    · trivial

/-- The tokens that a reader cuts off one after another, and the cursor after them. Before each
token the parse may have come to stand anywhere. -/
inductive Reads (reader : Reader) (cursor : Cursor) : List Token → Cursor → Prop
  | start : Reads reader cursor [] cursor
  | token {tokens : List Token} {met next : Cursor} {standing : Option Standing}
      {before after : Workspace} {token : Token} (reads : Reads reader cursor tokens met)
      (asked : (reader.next standing met).Gives before (.ok (some token), next) after) :
      Reads reader cursor (tokens ++ [token]) next

/-- Where a reading breaks off: after its last token, at the end of the text, or where the reader is
stuck. -/
inductive Stops (reader : Reader) (met : Cursor) : Nat → Prop
  | here : Stops reader met met.counter.position
  | ended {standing : Option Standing} {before after : Workspace} {next : Cursor}
      (asked : (reader.next standing met).Gives before (.ok none, next) after) :
      Stops reader met met.text.size
  | stuck {standing : Option Standing} {before after : Workspace} {next : Cursor}
      {stuck : StuckText}
      (asked : (reader.next standing met).Gives before (.error (.stuckText stuck), next) after) :
      Stops reader met stuck.position

/-- Whether some tokens lie one after another in the text before a position, the last one ends
there, and only matches of ignored terminals are left out before each of them. -/
inductive Covers (reader : Reader) (text : Array Char) : List Token → Nat → Prop
  | start : Covers reader text [] 0
  | token {tokens : List Token} {position start stop : Nat} {token : Token}
      (covers : Covers reader text tokens position) (skips : reader.Skips text position start)
      (cuts : token.Cuts text start stop) : Covers reader text (tokens ++ [token]) stop

theorem Covers.cuts {tokens : List Token} {position : Nat}
    (covers : reader.Covers text tokens position) :
    ∀ token ∈ tokens, ∃ start stop, token.Cuts text start stop := by
  induction covers with
  | start => exact nofun
  | token _ _ cuts ih =>
      intro other member
      rcases List.mem_append.mp member with earlier | last
      · exact ih other earlier
      · exact List.mem_singleton.mp last ▸ ⟨_, _, cuts⟩

/-- Where nothing is ignored the texts of the tokens are the text before the position. -/
theorem Covers.join {tokens : List Token} {position : Nat}
    (covers : reader.Covers text tokens position)
    (none : ∀ lexer ∈ reader.lexers, lexer.ignored = []) :
    String.join (tokens.map Token.text) = String.ofList (text.extract 0 position).toList := by
  induction covers with
  | start => simp
  | @token tokens position start stop token covers skips cuts ih =>
      rcases skips.eq none with rfl
      have split : text.extract 0 stop = text.extract 0 start ++ text.extract start stop := by
        simp [Nat.le_of_lt cuts.proper]
      rw [List.map_append, String.join_append, ih, split, Array.toList_append, String.ofList_append]
      simp only [List.map_cons, List.map_nil, String.join_cons, String.join_nil,
        String.append_empty, cuts.text]

theorem covers_of_reads (steady : ∀ lexer ∈ reader.lexers, lexer.Steady) {tokens : List Token}
    {met : Cursor} (reads : reader.Reads cursor tokens met) (start : cursor.counter.position = 0) :
    met.text = cursor.text ∧ met.counter.position ≤ met.text.size ∧
      reader.Covers cursor.text tokens met.counter.position := by
  induction reads with
  | start => exact ⟨rfl, start ▸ Nat.zero_le _, start ▸ .start⟩
  | token _ asked ih =>
      rcases ih with ⟨same, inside, covers⟩
      rcases tells_of_next steady inside asked with ⟨same', _, skips, cuts⟩
      rw [same] at same' skips cuts
      refine ⟨same', ?_, .token covers skips cuts⟩
      rw [same']
      exact cuts.inside

/-- Where a reading breaks off, all that comes after its last token is skipped. -/
theorem skips_of_stops (steady : ∀ lexer ∈ reader.lexers, lexer.Steady)
    (inside : cursor.counter.position ≤ cursor.text.size) {last : Nat}
    (stops : reader.Stops cursor last) :
    reader.Skips cursor.text cursor.counter.position last ∧ last ≤ cursor.text.size := by
  cases stops with
  | here => exact ⟨.nothing, inside⟩
  | ended asked => exact ⟨tells_of_next steady inside asked, Nat.le_refl _⟩
  | stuck asked =>
      rcases tells_of_next steady inside asked with ⟨skips, here⟩
      exact ⟨skips, Nat.le_of_lt here⟩

end Reader

namespace Parser

variable {options : Options} {settings : LexerSettings} {table : Table State}
  {number count : Nat} {source : TokenSource}

/-- All lexers of a source are made with the flags, the callbacks and the ignored names of its
settings. -/
theorem exists_made (made : makeSource options settings table number = .ok (source, count)) :
    ∀ lexer ∈ source.reader.lexers, ∃ number settings',
      Lexer.make number settings' = .ok lexer ∧
      settings'.flags = settings.flags ∧ settings'.callbacks = settings.callbacks ∧
        settings'.ignored = settings.ignored := by
  unfold makeSource at made
  split at made
  · rcases bind_eq_ok.mp made with ⟨postLexer, _, made⟩
    rcases bind_eq_ok.mp made with ⟨⟨lexer, count⟩, lexed, made⟩
    cases made
    rcases ContextualLexer.make_eq_ok lexed with ⟨root, each⟩
    simp only [Reader.lexers, List.forall_mem_cons, List.forall_mem_map]
    refine ⟨⟨_, _, root, rfl, rfl, rfl⟩, fun entry member => ?_⟩
    rcases exists_of_mem_right each member with ⟨place, _, _, number, own⟩
    exact ⟨_, _, own, rfl, rfl, rfl⟩
  · rcases bind_eq_ok.mp made with ⟨lexer, lexed, made⟩
    rcases bind_eq_ok.mp made with ⟨postLexer, _, made⟩
    cases made
    simp only [Reader.lexers, List.mem_singleton, forall_eq]
    exact ⟨_, _, lexed, rfl, rfl, rfl⟩

theorem lexers_quiet (made : makeSource options settings table number = .ok (source, count))
    (silent : settings.callbacks = []) : ∀ lexer ∈ source.reader.lexers, lexer.Quiet := by
  intro lexer member
  rcases exists_made made lexer member with ⟨_, _, made, _, same, _⟩
  exact Lexer.quiet_of_make made (same.trans silent)

/-- The tokens that a basic lexer or contextual lexers cut off a text, whatever the states of the
parse are meanwhile, cover it up to where the reading breaks off: they are not empty, each has the
text between its positions, they lie one after another, and all that is left out has been matched by
terminals that are ignored. If nothing is ignored, their texts are the covered part of the text.
There are no callbacks, and no match of a lexer is empty. -/
theorem reads_cover (made : makeSource options settings table number = .ok (source, count))
    (silent : settings.callbacks = [])
    (consuming : ∀ lexer ∈ source.reader.lexers, lexer.Consuming) {text : String}
    {tokens : List Token} {met : Cursor} {last : Nat}
    (reads : source.reader.Reads (.ofText text) tokens met) (stops : source.reader.Stops met last) :
    source.reader.Covers text.toList.toArray tokens met.counter.position ∧
      source.reader.Skips text.toList.toArray met.counter.position last ∧
      last ≤ text.toList.length ∧
      (settings.ignored = [] →
        String.join (tokens.map Token.text) = String.ofList (text.toList.take last)) := by
  have steady := lexers_steady made silent consuming
  rcases Reader.covers_of_reads steady reads rfl with ⟨same, inside, covers⟩
  rcases Reader.skips_of_stops steady inside stops with ⟨skips, within⟩
  rw [same] at skips within
  refine ⟨covers, skips, within, fun none => ?_⟩
  have none' : ∀ lexer ∈ source.reader.lexers, lexer.ignored = [] := by
    intro lexer member
    rcases exists_made made lexer member with ⟨_, _, made, _, _, same⟩
    exact (Lexer.ignored_of_make made).trans (same.trans none)
  rw [covers.join none', skips.eq none']
  simp [Cursor.ofText]

/-- The position that draining a source was stuck at. -/
def stuckAt? (drained : Drained) : Option Nat :=
  match drained.failure with
  | some (.stuckText stuck) => some stuck.position
  | _ => none

theorem stuckAt?_eq_some {drained : Drained} {position : Nat}
    (same : stuckAt? drained = some position) :
    ∃ stuck, drained.failure = some (.stuckText stuck) ∧ stuck.position = position := by
  unfold stuckAt? at same
  split at same
  next stuck failed => exact ⟨stuck, failed, Option.some.inj same⟩
  next => cases same

/-- What is drained from a source without a post-lexer is read, and if draining is not cut short,
the reader comes to the end of the text after that, or is stuck. -/
theorem reads_of_drain (plain : source.postLexer = none) {first : Cursor} (limit : Nat) :
    ∀ {stream : TokenStream} {cursor : Cursor} {before after : Workspace} {drained : Drained}
      {tokens : List Token}, (source.drain limit stream cursor).Gives before drained after →
      source.reader.Reads first tokens cursor →
      ∃ met, source.reader.Reads first (tokens ++ drained.tokens) met ∧
        (drained.failure = none → drained.cut = false → ∃ before after next,
          (source.reader.next none met).Gives before (.ok none, next) after) ∧
        ∀ failure, drained.failure = some failure → ∃ before after next,
          (source.reader.next none met).Gives before (.error failure, next) after := by
  induction limit with
  | zero =>
      intro stream cursor before after drained tokens gives reads
      cases (Work.gives_pure.mp gives).1
      exact ⟨cursor, by simpa using reads, by simp, by simp⟩
  | succ limit ih =>
      intro stream cursor before after drained tokens gives reads
      rw [TokenSource.drain] at gives
      rcases Work.gives_bind.mp gives with
        ⟨⟨answer', stream', next'⟩, between, pulled, gives⟩
      simp only [TokenSource.pull, plain] at pulled
      rcases Work.gives_bind.mp pulled with ⟨⟨answer, next⟩, between', asked, same⟩
      rcases Work.gives_pure.mp same with ⟨same, rfl⟩
      cases same
      rcases answer with failure | _ | token
      · cases (Work.gives_pure.mp gives).1
        refine ⟨cursor, by simpa using reads, by simp, fun other same => ?_⟩
        cases same
        exact ⟨_, _, _, asked⟩
      · cases (Work.gives_pure.mp gives).1
        exact ⟨cursor, by simpa using reads, fun _ _ => ⟨_, _, _, asked⟩, by simp⟩
      · rcases Work.gives_bind.mp gives with ⟨rest, between'', draining, gives⟩
        rcases Work.gives_pure.mp gives with ⟨same, rfl⟩
        cases same
        rcases ih draining (.token reads asked) with ⟨met, reads, stops⟩
        exact ⟨met, by simpa using reads, stops⟩

/-! ## A group that is numbered anew -/

/-- Whether a vocabulary can be prepared from some terminals, and all of its alternations can be
seen to take up text. -/
def isConsuming (flags : RegexFlags) (terminals : List Terminal) : Bool :=
  match ((Vocabulary.prepare terminals flags).run.run []).1 with
  | .ok vocabulary => vocabulary.scanner.alternations.all fun alternation =>
      alternation.regex.consumes
  | .error _ => false

theorem consuming_of_isConsuming {terminals : List Terminal}
    (consuming : isConsuming settings.flags terminals = true) :
    (Lexer.ofOrdered number settings terminals).Consuming := by
  intro vocabulary prepared
  unfold isConsuming at consuming
  have prepared : ((Vocabulary.prepare terminals settings.flags).run.run []).1 = .ok vocabulary :=
    prepared
  rw [prepared] at consuming
  exact Scanner.consuming_of_consumes (List.all_eq_true.mp consuming)

/-- Words and blanks, of which the blanks are ignored. -/
def spelling : List Terminal :=
  [{ name := "WORD", pattern := { kind := .expression, value := "[a-z]+" } },
    { name := "WS", pattern := { kind := .expression, value := " +" } }]

def spellingSettings : LexerSettings := Parser.settings spelling [.text "WS"] [] {}

def spellingSource : TokenSource := sourceOf spellingSettings 0

theorem spellingSource_made : makeSource { contextual := false } spellingSettings
    { rows := [], starts := [], ends := [] } 0 = .ok (spellingSource, 1) :=
  sourceOf_made (eq_ok_of_toOption (by decide +kernel))
    (Lexer.inOrder_of_isOrdered (by decide +kernel))

theorem drain_spelling : ∃ drained after,
    (spellingSource.drain 5 {} (.ofText " go  on !")).Gives {} drained after ∧
      drained.tokens.map Token.text = ["go", "on"] ∧ stuckAt? drained = some 8 :=
  ⟨_, _, Work.gives _ {}, by decide +kernel, by decide +kernel⟩

/-- Two words cover a text up to a mark that the lexer is stuck at. -/
theorem reads_cover_words : ∃ tokens met,
    tokens.map Token.text = ["go", "on"] ∧
      spellingSource.reader.Reads (.ofText " go  on !") tokens met ∧
      spellingSource.reader.Stops met 8 ∧
      spellingSource.reader.Covers " go  on !".toList.toArray tokens met.counter.position ∧
      spellingSource.reader.Skips " go  on !".toList.toArray met.counter.position 8 := by
  rcases drain_spelling with ⟨drained, after, gives, texts, stuck⟩
  rcases reads_of_drain rfl 5 gives .start with ⟨met, reads, _, fails⟩
  rcases stuckAt?_eq_some stuck with ⟨stuck, failed, position⟩
  rcases fails _ failed with ⟨_, _, _, asked⟩
  have stops : spellingSource.reader.Stops met 8 := position ▸ .stuck asked
  have consuming : ∀ lexer ∈ spellingSource.reader.lexers, lexer.Consuming := by
    simp only [spellingSource, sourceOf, Reader.lexers, List.mem_singleton, forall_eq]
    exact consuming_of_isConsuming (by decide +kernel)
  rcases reads_cover spellingSource_made rfl consuming reads stops with ⟨covers, skips, _⟩
  exact ⟨drained.tokens, met, texts, reads, stops, covers, skips⟩

/-- A letter after an empty group, both of which are looked at ahead, and the second group once
more. -/
def backward : Terminal :=
  { name := "A", pattern := { kind := .expression, value := "(?=()(a))\\2" } }

/-- By itself the terminal matches one letter. -/
theorem stop_backward {text : Array Char} {position stop : Nat}
    (found : backward.stop? {} false text position = some stop) : stop = position + 1 := by
  have compiled : Regex.compile backward.pattern.expression {} = .ok ⟨.sequence
      (.look false false (.sequence (.group 1 .empty) (.group 2 (.char 'a'))))
      (.backReference 2 ⟨1, 1⟩), {}, []⟩ := by decide +kernel
  rw [Terminal.stop?, compiled] at found
  simp only [CompiledRegex.matchAt, Regex.matching, matchChar, MatchPoint.span?,
    Bool.false_eq_true, if_false, Nat.not_lt_zero, Nat.sub_zero] at found
  cases here : text[position]? with
  | none => simp [here] at found
  | some c =>
      by_cases same : RegexFlags.sameChar {} 'a' c = true
      · simp only [here, same, if_true, List.find?_cons, beq_self_eq_true,
          Option.map_some] at found
        unfold matchAgain at found
        split at found
        next after again =>
          rw [Option.ite_none_right_eq_some] at again
          rcases again with ⟨_, ends⟩
          cases ends
          simp at found
          omega
        next => cases found
      · simp [here, same] at found

def backwardSettings : LexerSettings := Parser.settings [backward] [] [] {}

def backwardSource : TokenSource := sourceOf backwardSettings 0

theorem backwardSource_made : makeSource { contextual := false } backwardSettings
    { rows := [], starts := [], ends := [] } 0 = .ok (backwardSource, 1) :=
  sourceOf_made (eq_ok_of_toOption (by decide +kernel))
    (Lexer.inOrder_of_isOrdered (by decide +kernel))

theorem drain_backward : ∃ drained after,
    (backwardSource.drain 1 {} (.ofText "a")).Gives {} drained after ∧
      drained.tokens.map Token.text = [""] :=
  ⟨_, _, Work.gives _ {}, by decide +kernel⟩

/-- The lexer accepts the terminal, which never matches the empty text by itself, and makes an empty
token of it: among the groups of the lexer, the second group of the terminal has another
number. -/
theorem reads_empty : ∃ tokens met,
    makeSource { contextual := false } backwardSettings { rows := [], starts := [], ends := [] } 0 =
      .ok (backwardSource, 1) ∧
    (∀ terminal ∈ backwardSettings.terminals, ∀ text position stop,
      terminal.stop? backwardSettings.flags false text position = some stop → position < stop) ∧
    backwardSource.reader.Reads (.ofText "a") tokens met ∧ tokens.map Token.text = [""] ∧
    ¬∃ position, backwardSource.reader.Covers "a".toList.toArray tokens position := by
  rcases drain_backward with ⟨drained, after, gives, texts⟩
  rcases reads_of_drain rfl 1 gives .start with ⟨met, reads, _⟩
  refine ⟨drained.tokens, met, backwardSource_made, ?_, reads, texts, ?_⟩
  · intro terminal member text position stop found
    rcases List.mem_singleton.mp member with rfl
    rw [stop_backward found]
    exact Nat.lt_succ_self position
  · rintro ⟨position, covers⟩
    rcases List.mem_map.mp (texts ▸ List.mem_singleton_self "") with ⟨token, member, empty⟩
    rcases covers.cuts token member with ⟨_, _, cuts⟩
    exact cuts.text_ne empty

end Parser

end Lalr
