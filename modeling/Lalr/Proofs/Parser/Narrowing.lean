import Lalr.Proofs.Forest.Copies
import Lalr.Proofs.Lexer.Undisputed
import Lalr.Proofs.Parser.Coupling
import Lalr.Proofs.Parser.Driving
import Lalr.Proofs.Parser.Sorted

/-!
# Parses with contextual lexers

The lexer of a state tries fewer terminals than the root lexer, and so it may find
another token than the root lexer where the state expects what the root lexer finds. As
long as this does not happen, a text that is parsed with a basic lexer is parsed with
contextual lexers as well, and the two trees are equal.
-/

namespace Lalr

namespace LexerSettings

variable {settings : LexerSettings} {lexer : Lexer} {number : Nat}

/-- The vocabulary of the lexers that are made from some settings. -/
def vocabulary (settings : LexerSettings) : Except Failure Vocabulary :=
  Lexer.make 0 settings >>= fun lexer => lexer.vocabulary.get.1

theorem vocabulary_of_make (made : Lexer.make number settings = .ok lexer) :
    settings.vocabulary = lexer.vocabulary.get.1 := by
  rw [vocabulary, Lexer.make_number made 0]
  rfl

/-- The names of the terminals that are tried in a state with some entries, if no post-lexer adds
others. -/
def namesIn (settings : LexerSettings) (row : Row State) : List String :=
  row.map (·.1) ++ settings.ignored

/-- The settings of the lexer of a state with some entries. -/
def within (settings : LexerSettings) (row : Row State) : LexerSettings :=
  ContextualLexer.settingsFor settings (settings.namesIn row)

/-- Whether the scanners of all lexers that are made for a table are there, and are plain. -/
structure Plain (settings : LexerSettings) (table : Table State) : Prop where
  root : ∃ vocabulary, settings.vocabulary = .ok vocabulary ∧ vocabulary.Plain settings.flags
  states : ∀ {state : State} {row : Row State}, table.row? state = some row →
    ∃ vocabulary, (settings.within row).vocabulary = .ok vocabulary ∧
      vocabulary.Plain settings.flags

/-- Whether the scanners for some terminals can be seen to be there and to be plain. -/
def seenPlain (flags : RegexFlags) (terminals : List Terminal) : Bool :=
  match ((Vocabulary.prepare terminals flags).run.run []).1 with
  | .ok vocabulary => vocabulary.isPlain flags
  | .error _ => false

theorem exists_of_seenPlain {terminals : List Terminal}
    (made : Lexer.make 0 settings = .ok (.ofOrdered 0 settings terminals))
    (seen : seenPlain settings.flags terminals = true) :
    ∃ vocabulary, settings.vocabulary = .ok vocabulary ∧ vocabulary.Plain settings.flags := by
  rw [vocabulary_of_make made]
  unfold seenPlain at seen
  split at seen
  next vocabulary known => exact ⟨vocabulary, known, Vocabulary.plain_of_isPlain seen⟩
  next => cases seen

/-- Whether the scanners of all lexers that are made for a table, from terminals that are in order,
can be seen to be there and to be plain. -/
def isPlain (settings : LexerSettings) (table : Table State) : Bool :=
  seenPlain settings.flags settings.terminals && table.rows.all fun entry =>
    seenPlain settings.flags (settings.terminals.filter fun terminal =>
      (settings.namesIn entry.2).contains terminal.name)

theorem plain_of_isPlain {table : Table State} (checked : Lexer.check settings = .ok ())
    (distinct : (settings.terminals.map Terminal.name).Nodup)
    (sorted : Lexer.inOrder settings.terminals = .ok settings.terminals)
    (plain : settings.isPlain table = true) : settings.Plain table := by
  rcases Bool.and_eq_true_iff.mp plain with ⟨root, states⟩
  rw [List.all_eq_true] at states
  refine ⟨exists_of_seenPlain (Lexer.make_eq_ok.mpr ⟨checked, _, sorted, rfl⟩) root, ?_⟩
  intro state row known
  have made := ContextualLexer.make_ownLexer distinct sorted 0 (settings.namesIn row)
  have seen := states (state, row) (mem_of_assoc? known)
  rcases exists_of_seenPlain made seen with ⟨vocabulary, prepared, fine⟩
  exact ⟨vocabulary, prepared, fine⟩

end LexerSettings

/-- Tokens that are the same apart from where they lie are equal. -/
theorem Token.Alike.agrees {token token' : Token} (alike : token.Alike token') :
    token.agrees token' = true := by
  simp [Token.agrees, alike.kind, alike.text]

theorem Token.Alike.endOfInput (last last' : Option Token) :
    (Token.endOfInput last).Alike (Token.endOfInput last') := by
  cases last <;> cases last' <;> exact ⟨rfl, rfl, rfl⟩

namespace Parser

variable {parser parser' : Parser} {settings : LexerSettings} {before between after : Workspace}
  {session session' met next : Session}

/-- The sessions at which a run from a session asks for a token of its text: the session itself, and
those that the tokens of the text lead to. -/
inductive Asks (parser : Parser) (session : Session) (before : Workspace) :
    Session → Workspace → Prop
  | first : Asks parser session before session before
  | fed {here met next : Session} {reached between after : Workspace}
    {token : Token} {value : Value}
      (asks : Asks parser session before here reached)
      (fetched : (parser.fetch here).Gives reached (.ok (some token), met) between)
      (fed : (parser.feedAs false met token).Gives between (.ok value, next) after) :
      Asks parser session before next after

/-- What is asked after a token is asked before it as well. -/
theorem Asks.cons {here : Session} {reached middle : Workspace} {token : Token} {value : Value}
    (fetched : (parser.fetch session).Gives before (.ok (some token), met) between)
    (fed : (parser.feedAs false met token).Gives between (.ok value, next) middle)
    (asks : parser.Asks next middle here reached) : parser.Asks session before here reached := by
  induction asks with
  | first => exact .fed .first fetched fed
  | fed _ fetched fed ih => exact .fed ih fetched fed

/-- Whether there is nothing to dispute about at any position that the root lexer passes where a run
from a session asks for a token. -/
def Undisputed (parser : Parser) (settings : LexerSettings) (session : Session)
    (before : Workspace) : Prop :=
  ∀ ⦃here : Session⦄ ⦃reached : Workspace⦄ ⦃cursor : Cursor⦄ ⦃state : State⦄
    ⦃row : Row State⦄ ⦃root own : Vocabulary⦄ ⦃position : Nat⦄,
      parser.Asks session before here reached →
    here.cursor = some cursor → here.stack.states.head? = some state →
    parser.table.row? state = some row → settings.vocabulary = .ok root →
    (settings.within row).vocabulary = .ok own →
    ContextualLexer.Passes root.scanner settings.ignored cursor.text cursor.counter.position
      position →
    position < cursor.text.size →
    ContextualLexer.Undisputed settings (settings.namesIn row) root own cursor.text position

/-- Where each state has all the expressions that absorb its literals, there is nothing to dispute
about in any run. -/
theorem undisputed_of_absorbing (distinct : (settings.terminals.map Terminal.name).Nodup)
    (plain : settings.Plain parser.table)
    (absorbing : ∀ {state : State} {row : Row State}, parser.table.row? state = some row →
      ∀ literal ∈ settings.terminals, literal.name ∈ settings.namesIn row →
        ∀ expression ∈ settings.terminals,
          Vocabulary.absorbs settings.flags expression literal = true →
            expression.name ∈ settings.namesIn row)
    (session : Session) (before : Workspace) : parser.Undisputed settings session before := by
  intro here reached cursor state row rootVocabulary ownVocabulary position _ _ _
    known rooted owned _ _
  rcases plain.root with ⟨_, rootFound, rootPlain⟩
  rcases Except.ok.inj (rootFound.symm.trans rooted) with rfl
  rcases plain.states known with ⟨_, ownFound, ownPlain⟩
  rcases Except.ok.inj (ownFound.symm.trans owned) with rfl
  rcases bind_eq_ok.mp rooted with ⟨root, rootMade, rootPrepared⟩
  rcases bind_eq_ok.mp owned with ⟨own, ownMade, prepared⟩
  have beside : ContextualLexer.Beside settings (settings.namesIn row) root own _ _ :=
    ⟨distinct, ⟨_, rootMade⟩, ⟨_, ownMade⟩, rootPrepared, prepared, rootPlain, ownPlain⟩
  exact beside.undisputed_of_absorbing (absorbing known) cursor.text position

/-- Two parsers with the same rules and the same table, of which the first has a basic lexer and the
second has contextual lexers. -/
structure Narrows (settings : LexerSettings) (parser parser' : Parser) : Prop where
  starts : parser'.options.starts = parser.options.starts
  table : parser'.table = parser.table
  reductions : parser'.reductions = parser.reductions
  basic : ∃ root number, parser.source.reader = .basic root ∧
    Lexer.make number settings = .ok root
  contextual : ∃ lexer number count, parser'.source.reader = .contextual lexer ∧
    ContextualLexer.make number settings
      (parser.table.rows.map fun entry => (entry.1, entry.2.map (·.1))) [] = .ok (lexer, count)
  postLexer : parser.source.postLexer = none
  postLexer' : parser'.source.postLexer = none

/-- The session of the one parser and that of the other have come equally far in one text, with
values that are alike. -/
structure Abreast (start forests : Forest × Forest) (session session' : Session) : Prop
    extends Session.Alike ⟨Token.Alike, false⟩ start [] forests session session' where
  cursors : ∃ cursor cursor', session.cursor = some cursor ∧ session'.cursor = some cursor' ∧
    cursor.Aligned cursor'

theorem stack_of_fetch {found : Option Token}
    (fetched : (parser.fetch session).Gives before (.ok found, met) after) :
    met.stack = session.stack := by
  rcases fetch_eq_ok fetched with ⟨_, _, _, rfl, _⟩
  rfl

/-- A state that takes a token, or the end of the input, has an entry for it. -/
theorem row_of_feedAs {isEnd : Bool} {token : Token} {value : Value}
    (gives : (parser.feedAs isEnd session token).Gives before (.ok value, next) after) :
    ∃ state row, session.stack.states.head? = some state ∧
      parser.table.row? state = some row ∧
      token.kind ∈ row.map (·.1) := by
  unfold feedAs at gives
  rcases Work.gives_bind.mp gives with ⟨⟨outcome, stack⟩, between, fed, gives⟩
  have fine : outcome = .shifted ∨ ∃ value, outcome = .finished value := by
    cases outcome with
    | shifted => exact .inl rfl
    | finished value => exact .inr ⟨value, rfl⟩
    | rejected expected => cases (Work.gives_pure.mp gives).1
    | failed failure => cases (Work.gives_pure.mp gives).1
    | endless => cases (Work.gives_pure.mp gives).1
  generalize parser.table.reductionBound session.stack.states.length = fuel at fed
  cases fuel with
  | zero =>
      cases (Work.gives_pure.mp fed).1
      rcases fine with fine | ⟨_, fine⟩ <;> cases fine
  | succ fuel =>
      cases top : parser.table.topRow session.stack.states with
      | error fault =>
          have move : parser.table.move session.stack.states token.kind = .lost fault := by
            simp [Table.move, top]
          rw [Table.feed, move] at fed
          cases (Work.gives_pure.mp fed).1
          rcases fine with fine | ⟨_, fine⟩ <;> cases fine
      | ok row =>
          rcases Table.topRow_eq_ok_iff.mp top with ⟨state, below, same, here⟩
          refine ⟨state, row, by rw [same]; rfl, here, ?_⟩
          cases entry : assoc? row token.kind with
          | some action => exact List.mem_map.mpr ⟨_, mem_of_assoc? entry, rfl⟩
          | none =>
              have move : parser.table.move session.stack.states token.kind =
                  .rejected (sortedSet (Table.expected row)) := by simp [Table.move, top, entry]
              rw [Table.feed, move] at fed
              rcases Work.gives_bind.mp fed with ⟨_, _, _, fed⟩
              cases (Work.gives_pure.mp fed).1
              rcases fine with fine | ⟨_, fine⟩ <;> cases fine

end Parser

namespace ContextualLexer

variable {settings : LexerSettings} {number number' count : Nat} {table : Table State}
  {lexer : ContextualLexer} {root own : Lexer} {place : Standing} {row : Row State}
  {cursor cursor' met : Cursor} {found : Option Token} {before after : Workspace}

/-- What the lexer of the state finds is found. -/
theorem next_of_ok (known : assoc? lexer.lexers place.state = some own)
    (went : (own.next (some place) cursor).Gives before (.ok found, met) after) :
    (lexer.next (some place) cursor).Gives before (.ok found, met) after := by
  simp only [ContextualLexer.next, known]
  exact Work.gives_bind.mpr ⟨_, _, went, Work.gives_pure.mpr ⟨rfl, rfl⟩⟩

/-- Where the root lexer comes to the end of the text, or to a token that a state has an entry for,
contextual lexers do so too in this state, if there is nothing to dispute about on the way. -/
theorem next_follows
    (made : make number settings (table.rows.map fun entry => (entry.1, entry.2.map (·.1))) [] =
      .ok (lexer, count))
    (rooted : Lexer.make number' settings = .ok root)
    (distinct : (settings.terminals.map Terminal.name).Nodup) (silent : settings.callbacks = [])
    (plain : settings.Plain table) (here : table.row? place.state = some row)
    (undisputed : ∀ {rootVocabulary ownVocabulary : Vocabulary} {position : Nat},
      settings.vocabulary = .ok rootVocabulary →
        (settings.within row).vocabulary = .ok ownVocabulary →
      Passes rootVocabulary.scanner settings.ignored cursor.text
        cursor.counter.position position →
      position < cursor.text.size →
      Undisputed settings (settings.namesIn row) rootVocabulary ownVocabulary cursor.text position)
    (aligned : cursor.Aligned cursor')
    (read : (root.next (some place) cursor).Gives before (.ok found, met) after)
    (expected : ∀ token, found = some token → token.kind ∈ row.map (·.1))
    (before' : Workspace) :
    after.Alike before ∧ ∃ found' met' after',
      (lexer.next (some place) cursor').Gives before' (.ok found', met') after' ∧
      after'.Alike before' ∧ Option.Rel Token.Alike found found' ∧ met.Aligned met' := by
  have listed : assoc? (table.rows.map fun entry => (entry.1, entry.2.map (·.1))) place.state =
      some (row.map (·.1)) := by
    rw [assoc?_map, show assoc? table.rows place.state = some row from here]
    rfl
  rcases exists_own made listed with ⟨own, known, number, ownMade⟩
  rw [List.append_nil] at ownMade
  change Lexer.make number (settings.within row) = .ok own at ownMade
  have ownSilent : own.callbacks = [] := (Lexer.callbacks_of_make ownMade).trans silent
  have rootSilent : root.callbacks = [] := (Lexer.callbacks_of_make rooted).trans silent
  rcases plain.root with ⟨rootVocabulary, rootPrepared, rootPlain⟩
  rcases plain.states here with ⟨ownVocabulary, prepared, ownPlain⟩
  have undisputed := fun position =>
    @undisputed rootVocabulary ownVocabulary position rootPrepared prepared
  rw [LexerSettings.vocabulary_of_make rooted] at rootPrepared
  rw [LexerSettings.vocabulary_of_make ownMade] at prepared
  have beside : Beside settings (settings.namesIn row) root own rootVocabulary ownVocabulary :=
    ⟨distinct, ⟨_, rooted⟩, ⟨_, ownMade⟩, rootPrepared, prepared, rootPlain, ownPlain⟩
  rcases Lexer.next_eq_find rootSilent rootPrepared (some place) before cursor with
    ⟨_, asked, alike⟩
  rcases asked.unique read with ⟨went, rfl⟩
  rcases beside.findWithin_follows
      (fun name ignored => List.mem_append_right _ ignored) undisputed _ rfl .start aligned went
      fun token same => List.mem_append_left _ (expected token same) with
    ⟨found', met', went', tokens, onward⟩
  rcases Lexer.next_eq_find ownSilent prepared (some place) before' cursor' with
    ⟨after', asked', alike'⟩
  rw [Lexer.find, ← aligned.text, ← aligned.position, went'] at asked'
  exact ⟨alike, found', met', after', next_of_ok known asked', alike', tokens, onward⟩

end ContextualLexer

namespace Parser

variable {parser parser' : Parser} {settings : LexerSettings} {start : Forest × Forest}
  {growth : Growth} {rules : List Rule} {before before' between after : Workspace}
  {session session' met next : Session} {found : Option Token}

/-- Parsers that come equally far in a text find the same there if the state expects it. -/
theorem fetch_abreast (narrows : Narrows settings parser parser')
    (distinct : (settings.terminals.map Terminal.name).Nodup) (silent : settings.callbacks = [])
    (plain : settings.Plain parser.table) {state : State} {row : Row State}
    (top : session.stack.states.head? = some state) (here : parser.table.row? state = some row)
    (undisputed : parser.Undisputed settings session before)
    (abreast : Abreast start (forestsOf before before') session session')
    (fetched : (parser.fetch session).Gives before (.ok found, met) between)
    (expected : ∀ token, found = some token → token.kind ∈ row.map (·.1)) :
    ∃ found' met' between', (parser'.fetch session').Gives before' (.ok found', met') between' ∧
      Option.Rel Token.Alike found found' ∧
      Abreast start (forestsOf between between') met met' := by
  rcases abreast.cursors with ⟨cursor, cursor', at_, at_', aligned⟩
  rcases narrows.basic with ⟨root, number, basic, rooted⟩
  rcases narrows.contextual with ⟨lexer, number', count, contextual, made⟩
  have stands : session.standing? = some ⟨session.stack.states.length, state⟩ := by
    rw [Session.standing?, top]
    rfl
  have stands' : session'.standing? = some ⟨session.stack.states.length, state⟩ := by
    rw [← stands, Session.standing?, Session.standing?, abreast.states]
  rcases fetch_eq_ok fetched with ⟨_, next, there, rfl, read⟩
  rcases Option.some.inj (at_.symm.trans there) with rfl
  rw [basic, stands] at read
  rcases ContextualLexer.next_follows made rooted distinct silent plain here
      (fun known known' => undisputed .first at_ top here known known') aligned read
        expected before' with
    ⟨alike, found', next', between', read', alike', tokens, onward⟩
  refine ⟨found', { session' with cursor := some next' }, between', ?_, tokens,
    ?_, _, _, rfl, rfl, onward⟩
  · simp only [fetch, at_', contextual, stands']
    exact Work.gives_map.mpr ⟨_, read', rfl⟩
  · have same : forestsOf between between' = forestsOf before before' :=
      Prod.ext alike.forest alike'.forest
    rw [same]
    exact ⟨abreast.states, abreast.ending, abreast.values⟩

/-- Parsers that come equally far do the same about a token. -/
theorem feedAs_abreast (narrows : Narrows settings parser parser')
    (builds : parser.reductions.Builds growth rules) {isEnd : Bool} {token token' : Token}
    {value : Value} (tokens : token.Alike token')
    (abreast : Abreast start (forestsOf before before') session session')
    (fed : (parser.feedAs isEnd session token).Gives before (.ok value, next) after) :
    ∃ value' next' after', (parser'.feedAs isEnd session' token').Gives before'
      (.ok value', next')
        after' ∧
      (∃ used, ValueLikeness.Alike ⟨Token.Alike, false⟩ (forestsOf after after')
        value value' used ∧
        used.Pairwise Separate) ∧
      Abreast start (forestsOf after after') next next' := by
  have settle : Reductions.Settle ⟨Token.Alike, false⟩ growth rules :=
    fun _ _ => ⟨nofun, nofun⟩
  have fed' := Work.gives (parser'.feedAs isEnd session' token') before'
  rcases feedAs_alike builds settle narrows.reductions narrows.table tokens
      tokens.kind abreast.toAlike fed fed' with
    ⟨answers, alike⟩
  generalize StateT.run (m := Id) (parser'.feedAs isEnd session' token') before' = ran
    at fed' answers alike
  rcases ran with ⟨⟨answer, next'⟩, after'⟩
  cases answer with
  | error failure => exact answers.elim
  | ok value' =>
      refine ⟨value', next', after', fed', answers, alike, ?_⟩
      rw [feedAs_eq fed, feedAs_eq fed']
      exact abreast.cursors

/-- What is not disputed on the way is not disputed after a token either. -/
theorem Undisputed.onward {token : Token} {value : Value} {middle : Workspace}
    (undisputed : parser.Undisputed settings session before)
    (fetched : (parser.fetch session).Gives before (.ok (some token), met) between)
    (fed : (parser.feedAs false met token).Gives between (.ok value, next) middle) :
    parser.Undisputed settings next middle :=
  fun _ _ _ _ _ _ _ _ asks => undisputed (asks.cons fetched fed)

/-- Where the one parser runs to its end, so does the other, in as many steps, and the values are
alike. Induction on the run: sessions that have come equally far stay abreast. -/
theorem runs_abreast (narrows : Narrows settings parser parser')
    (builds : parser.reductions.Builds growth rules)
    (distinct : (settings.terminals.map Terminal.name).Nodup) (silent : settings.callbacks = [])
    (plain : settings.Plain parser.table) {steps : Nat} {tokens : List Token}
    {raw : Except Failure Value} (runs : parser.Runs steps session before tokens raw after) :
    ∀ {value : Value} {session' : Session} {before' : Workspace}, raw = .ok value →
      parser.Undisputed settings session before →
      Abreast start (forestsOf before before') session session' →
      ∃ tokens' value' after', parser'.Runs steps session' before' tokens' (.ok value') after' ∧
        start.2.Preserves false after'.forest [] ∧
        ∃ used, ValueLikeness.Alike ⟨Token.Alike, false⟩
          (forestsOf after after') value value' used ∧
          used.Pairwise Separate := by
  induction runs with
  | unread fetched => exact fun failed => nomatch failed
  | refused fetched fed => exact fun failed => nomatch failed
  | fed fetched fed rest ih =>
      intro value session' before' ended undisputed abreast
      rcases row_of_feedAs fed with ⟨state, row, top, here, entry⟩
      rw [stack_of_fetch fetched] at top
      rcases fetch_abreast narrows distinct silent
          plain top here undisputed abreast fetched
            (fun _ same => Option.some.inj same ▸ entry) with
        ⟨_, met', between', fetched', ⟨tokens⟩, abreast⟩
      rcases feedAs_abreast narrows builds tokens abreast fed with
        ⟨_, next', middle', fed', _, abreast⟩
      rcases ih ended (undisputed.onward fetched fed) abreast with
        ⟨tokens', value', after', rest', kept, alike⟩
      exact ⟨_, value', after', .fed fetched' fed' rest', kept, alike⟩
  | finished fetched ended =>
      rintro value session' before' rfl undisputed abreast
      rcases row_of_feedAs ended with ⟨state, row, top, here, _⟩
      rw [stack_of_fetch fetched] at top
      rcases fetch_abreast narrows distinct silent
          plain top here undisputed abreast fetched (fun _ same => nomatch same) with
        ⟨_, met', between', fetched', ⟨⟩, abreast⟩
      have tokens (met : Session) : (endToken met none).Alike (endToken met' none) :=
        .endOfInput _ _
      rcases feedAs_abreast narrows builds (tokens _) abreast ended with
        ⟨value', _, after', ended', alike, abreast⟩
      exact ⟨[], value', after', .finished fetched' ended', abreast.values.stays.right, alike⟩

/-- A text that the one parser parses is parsed by the other, and the values are alike. -/
theorem parse_abreast (narrows : Narrows settings parser parser')
    (builds : parser.reductions.Builds growth rules)
    (distinct : (settings.terminals.map Terminal.name).Nodup) (silent : settings.callbacks = [])
    (plain : settings.Plain parser.table) {text : String} {symbol : Option String} {value : Value}
    (parsed : (parser.parse text symbol).Yields before value after)
    (undisputed : ∀ session, parser.start (some text) symbol = .ok session →
      parser.Undisputed settings session before) (before' : Workspace) :
    ∃ value' after', (parser'.parse text symbol).Yields before' value' after' ∧
      before'.forest.Preserves false after'.forest [] ∧
      ∃ used, ValueLikeness.Alike ⟨Token.Alike, false⟩
        (forestsOf after after') value value' used ∧
        used.Pairwise Separate := by
  cases started : parser.start (some text) symbol with
  | error failure =>
      simp only [parse, started] at parsed
      cases parsed
  | ok session =>
      have started' : parser'.start (some text) symbol = .ok session := by
        rw [← started]
        simp only [Parser.start, chooseStart, narrows.starts, narrows.table]
      rcases parse_runs narrows.postLexer started parsed (by simp) with
        ⟨steps, tokens, raw, middle, enough, runs, reports⟩
      have same : raw = .ok value ∧ middle = after := by
        cases raw with
        | error failure => exact reports.elim
        | ok value => exact ⟨congrArg _ reports.1, reports.2⟩
      rcases same with ⟨rfl, rfl⟩
      have abreast : Abreast (forestsOf before before') (forestsOf before before')
          session session := by
        refine ⟨⟨rfl, rfl, ⟨[], ?_, .nil, by simp⟩, .refl _ _⟩, _, _,
          (start_eq_ok started).1, (start_eq_ok started).1, rfl, rfl⟩
        rw [values_of_start started]
        exact .nil
      rcases runs_abreast narrows builds distinct
          silent plain runs rfl (undisputed session started) abreast with
        ⟨tokens', value', after', runs', kept, alike⟩
      exact ⟨value', after', parse_of_runs narrows.postLexer' started' runs' enough,
        kept, alike⟩

variable {terminals : List Terminal} {table : Table State} {ignored : List Data} {options : Options}
  {made made' : Workspace} {flags : RegexFlags}

/-- With contextual lexers a parser can be made wherever it can be made with a basic lexer. -/
theorem exists_contextual
    (make : (make terminals rules table ignored options).Yields made parser made')
    (basic : options.contextual = false) (postLexer : options.postLexer = .ok none)
    (silent : options.callbacks = .ok []) (flagged : flagsFor terminals options = .ok flags)
    (remade : Workspace) :
    ∃ parser' remade',
      (Parser.make terminals rules table ignored { options with contextual := true }).Yields remade
        parser' remade' ∧
      parser.table = table ∧ Narrows
        (Parser.settings terminals ignored [] flags) parser parser' := by
  rcases assemble_of_make make with ⟨count, assembled, _⟩
  simp only [assemble, bind_eq_ok] at assembled
  rcases assembled with
    ⟨⟨⟩, starts, transformer, transformed, reductions, reduced, callbacks, called, flags',
      flagged', ⟨source, _⟩, sourced, whole, wholeMade, keeping, keepingMade, assembled⟩
  cases assembled
  cases flagged.symm.trans flagged'
  have same : callbacks = [] := by
    rw [silent] at called
    exact (Except.ok.inj called).symm
  rcases same with rfl
  simp only [makeSource, basic, postLexer, Bool.false_eq_true, if_false, bind_eq_ok] at sourced
  rcases sourced with ⟨root, rooted, _, ⟨⟩, sourced⟩
  cases sourced
  have measurable := Lexer.measurable_of_check (Lexer.check_of_make rooted) rfl
  have exists_lexer : ∃ lexer others, ContextualLexer.make remade.lexerCount
      (Parser.settings terminals ignored [] flags)
      (table.rows.map fun entry => (entry.1, entry.2.map (·.1))) [] = .ok (lexer, others) := by
    rcases ContextualLexer.exists_makeLexers measurable [] remade.lexerCount [] with
      ⟨⟨lexers, others⟩, lexersMade⟩
    exact ⟨_, _, bind_eq_ok.mpr ⟨_, Lexer.make_number rooted _,
      bind_eq_ok.mpr ⟨_, lexersMade, rfl⟩⟩⟩
  rcases exists_lexer with ⟨lexer, others, contextual⟩
  have sourced : makeSource { options with contextual := true }
      (Parser.settings terminals ignored [] flags) table remade.lexerCount =
        .ok ({ reader := .contextual lexer }, others + 1) := by
    simp only [makeSource, if_true, postLexer]
    exact bind_eq_ok.mpr ⟨_, rfl, bind_eq_ok.mpr ⟨_, contextual, rfl⟩⟩
  have assembled : assemble terminals rules table ignored { options with contextual := true }
      remade.lexerCount = .ok ({
        options := { options with contextual := true }
        terminals
        rules
        ignored := ignored.filterMap Data.asText?
        table
        reductions
        source := { reader := .contextual lexer }
        whole := { whole with number := remade.lexerCount + (others + 1) }
        wholeKeeping := { keeping with number := remade.lexerCount + (others + 1) + 1 } },
        remade.lexerCount + (others + 1) + 2) := by
    simp only [assemble, bind_eq_ok]
    exact ⟨⟨⟩, starts, transformer, transformed, reductions, reduced, [], called,
      flags, flagged, _, sourced, _, Lexer.make_number wholeMade _, _,
      Lexer.make_number keepingMade _, rfl⟩
  rcases make_of_assemble assembled with ⟨after, made⟩
  exact ⟨_, after, made, rfl, rfl, rfl, rfl, ⟨root, _, rfl, rooted⟩,
    ⟨lexer, _, _, rfl, contextual⟩, rfl, rfl⟩

/-- Switching from a basic lexer to contextual lexers breaks no text that is parsed, as long as
nothing gets in the way of what the root lexer finds: where the names of all terminals are
different, there is no post-lexer, no callback and no transformer, and all scanners are plain, the
parser with contextual lexers can be made, and it parses the text to an equal value, wherever the
first value is still there. -/
theorem parse_contextual
    (make : (make terminals rules table ignored options).Yields made parser made')
    (basic : options.contextual = false) (postLexer : options.postLexer = .ok none)
    (silent : options.callbacks = .ok []) (builds : options.transformer = .ok none)
    (flagged : flagsFor terminals options = .ok flags)
    (distinct : (terminals.map Terminal.name).Nodup)
    (plain : (Parser.settings terminals ignored [] flags).Plain table) (remade : Workspace) :
    ∃ parser' remade',
      (Parser.make terminals rules table ignored { options with contextual := true }).Yields remade
        parser' remade' ∧
      ∀ {text : String} {symbol : Option String} {value : Value} {before after later : Workspace},
        (parser.parse text symbol).Yields before value after →
        (∀ session, parser.start (some text) symbol = .ok session →
          parser.Undisputed (Parser.settings terminals ignored [] flags) session before) →
        after.forest.Preserves false later.forest [] →
        ∃ value' after', (parser'.parse text symbol).Yields later value' after' ∧
          after'.forest.same value value' = true := by
  rcases exists_contextual make basic postLexer silent flagged remade with
    ⟨parser', remade', make', rfl, narrows⟩
  refine ⟨parser', remade', make', ?_⟩
  intro text symbol value before after later parsed undisputed stays
  rcases parse_abreast narrows
      (builds_of_make make builds) distinct rfl plain parsed undisputed _ with
    ⟨value', after', parsed', kept, used, alike, apart⟩
  have together : ValueLikeness.Stays ⟨Token.Alike, false⟩ (forestsOf after after')
      (after'.forest, after'.forest) [] := ⟨stays.trans kept, .refl _ _⟩
  have alike := alike.keep together (by simp)
  exact ⟨value', after', parsed', alike.same_eq_true Token.Alike.agrees apart⟩

/-! ## A keyword before a word -/

/-- A word, a keyword, and a blank. -/
def words : List Terminal :=
  [{ name := "WORD", pattern := { kind := .expression, value := "[a-z]+" } },
    { name := "IF", pattern := { kind := .literal, value := "if" } },
    { name := "WS", pattern := { kind := .literal, value := " " } }]

/-- A text is a word, with or without the keyword before it. -/
def wordRules : List Rule :=
  [{ origin := "start", expansion := [.terminal "IF" false, .terminal "WORD" false] },
    { origin := "start", expansion := [.terminal "WORD" false] }]

def wordTable : Table State where
  rows := [
    (.number 0,
      [("IF", .shift (.number 1)), ("WORD", .shift (.number 3)), ("start", .shift (.number 4))]),
    (.number 1, [("WORD", .shift (.number 2))]),
    (.number 2, [("$END", .reduce wordRules[0])]),
    (.number 3, [("$END", .reduce wordRules[1])]),
    (.number 4, [])]
  starts := [("start", .number 0)]
  ends := [("start", .number 4)]

def wordSettings : LexerSettings := Parser.settings words [.text "WS"] [] {}

theorem words_inOrder : Lexer.inOrder words = .ok words :=
  Lexer.inOrder_of_isOrdered (by decide +kernel)

theorem words_checked : isSound words wordRules wordTable [.text "WS"] = true ∧
    wordSettings.isPlain wordTable = true ∧
    ∀ entry ∈ wordTable.rows, ∀ literal ∈ words,
      literal.name ∈ wordSettings.namesIn entry.2 →
      ∀ expression ∈ words, Vocabulary.absorbs {} expression literal = true →
        expression.name ∈ wordSettings.namesIn entry.2 := by decide +kernel

theorem words_plain : wordSettings.Plain wordTable :=
  LexerSettings.plain_of_isPlain (check_of_isSound words_checked.1) (by decide) words_inOrder
    words_checked.2.1

/-- The keyword is only absorbed by words, and each state that expects it expects words as well. -/
theorem words_absorbing {state : State} {row : Row State}
    (known : wordTable.row? state = some row) :
    ∀ literal ∈ wordSettings.terminals, literal.name ∈ wordSettings.namesIn row →
      ∀ expression ∈ wordSettings.terminals,
        Vocabulary.absorbs wordSettings.flags expression literal = true →
          expression.name ∈ wordSettings.namesIn row :=
  words_checked.2.2 _ (mem_of_assoc? known)

/-- With either lexer a keyword before a word comes to the same tree. -/
theorem parse_contextual_word : ∃ parser made value after parser' made' value' after',
    (make words wordRules wordTable [.text "WS"] { contextual := false }).Yields {} parser made ∧
    (parser.parse "if a" none).Yields {} value after ∧
    (make words wordRules wordTable [.text "WS"] { contextual := true }).Yields {} parser' made' ∧
    (parser'.parse "if a" none).Yields after value' after' ∧
    after'.forest.same value value' = true := by
  have distinct : (words.map Terminal.name).Nodup := by decide
  rcases basicOf_made words_checked.1 words_inOrder with ⟨made, make⟩
  rcases blame_eq_none (show blame (StateT.run (m := Id)
    ((basicOf words wordRules wordTable [.text "WS"]).parse "if a" none).run {}) = none by
      decide +kernel) with
    ⟨value, after, parsed⟩
  rcases parse_contextual make rfl rfl rfl rfl rfl distinct words_plain {} with
    ⟨parser', made', make', parses⟩
  rcases parses parsed
      (fun session _ => undisputed_of_absorbing distinct words_plain words_absorbing session {})
      (.refl _ _) with
    ⟨value', after', parsed', same⟩
  exact ⟨_, made, value, after, parser', made', value', after', make, parsed, make', parsed',
    same⟩

/-! ## What gets in the way -/

/-- Whether a text is parsed with a basic lexer, but not with contextual lexers. -/
def Breaks (terminals : List Terminal) (rules : List Rule) (table : Table State) (text : String) :
    Prop :=
  ∃ parser made value after parser' made' failure after',
    (make terminals rules table [] { contextual := false }).Yields {} parser made ∧
    (parser.parse text none).Yields {} value after ∧
    (make terminals rules table [] { contextual := true }).Yields {} parser' made' ∧
    (parser'.parse text none).run.Gives after (.error failure) after' ∧ failure.isStuck = true

theorem breaks_of_blame {terminals : List Terminal} {rules : List Rule} {table : Table State}
    {lexer : ContextualLexer} {count : Nat} {text : String} (kind : Option String)
    (position : Option Nat) (sound : isSound terminals rules table [] = true)
    (sorted : Lexer.inOrder terminals = .ok terminals)
    (made : ContextualLexer.make 0 (Parser.settings terminals [] [] {})
      (table.rows.map fun entry => (entry.1, entry.2.map (·.1))) [] = .ok (lexer, count))
    (fine : blame (StateT.run (m := Id)
      ((basicOf terminals rules table []).parse text none).run {}) = none)
    (stuck : blame (StateT.run (m := Id)
      ((contextualOf terminals rules table [] lexer count).parse text none).run
        (StateT.run (m := Id) ((basicOf terminals rules table []).parse text none).run {}).2) =
      some (true, kind, position)) :
    Breaks terminals rules table text := by
  rcases basicOf_made sound sorted with ⟨_, make⟩
  rcases contextualOf_made sound sorted made with ⟨_, make'⟩
  rcases blame_eq_none fine with ⟨value, after, parsed⟩
  have same : (StateT.run (m := Id) ((basicOf terminals rules table []).parse text none).run {}).2 =
    after := congrArg Prod.snd parsed
  rw [same] at stuck
  rcases blame_eq_some stuck with ⟨failure, after', parsed', stuck, _⟩
  exact ⟨_, _, value, after, _, _, failure, after', make, parsed, make', parsed', stuck⟩

/-- A word, a mark, a keyword, and a digit. The mark is longer than the keyword, and shorter than
words may be. -/
def keywords : List Terminal :=
  [{ name := "WORD", pattern := { kind := .expression, value := "[a-z]+" } },
    { name := "MARK", pattern := { kind := .expression, value := "if1" } },
    { name := "IF", pattern := { kind := .literal, value := "if" } },
    { name := "ONE", pattern := { kind := .expression, value := "1" } }]

/-- A text is a keyword and a digit, or a mark and a word. -/
def keywordRules : List Rule :=
  [{ origin := "start", expansion := [.terminal "IF" false, .terminal "ONE" false] },
    { origin := "start", expansion := [.terminal "MARK" false, .terminal "WORD" false] }]

def keywordTable : Table State where
  rows := [
    (.number 0,
      [("IF", .shift (.number 1)), ("MARK", .shift (.number 2)), ("start", .shift (.number 5))]),
    (.number 1, [("ONE", .shift (.number 3))]),
    (.number 2, [("WORD", .shift (.number 4))]),
    (.number 3, [("$END", .reduce keywordRules[0])]),
    (.number 4, [("$END", .reduce keywordRules[1])]),
    (.number 5, [])]
  starts := [("start", .number 0)]
  ends := [("start", .number 5)]

def keywordSettings : LexerSettings := Parser.settings keywords [] [] {}

/-- Where the text begins, the keyword is tried without the words that absorb it, and after the
mark. -/
def keywordLexer : ContextualLexer where
  lexers := [
    (.number 0, ContextualLexer.ownLexer keywordSettings ["IF", "MARK", "start"] 1),
    (.number 1, ContextualLexer.ownLexer keywordSettings ["ONE"] 2),
    (.number 2, ContextualLexer.ownLexer keywordSettings ["WORD"] 3),
    (.number 3, ContextualLexer.ownLexer keywordSettings ["$END"] 4),
    (.number 4, ContextualLexer.ownLexer keywordSettings ["$END"] 4),
    (.number 5, ContextualLexer.ownLexer keywordSettings [] 5)]
  root := .ofOrdered 0 keywordSettings keywords

theorem keywords_inOrder : Lexer.inOrder keywords = .ok keywords :=
  Lexer.inOrder_of_isOrdered (by decide +kernel)

theorem keywords_sound : isSound keywords keywordRules keywordTable [] = true := by decide +kernel

theorem make_keywordLexer : ContextualLexer.make 0 keywordSettings
    (keywordTable.rows.map fun entry => (entry.1, entry.2.map (·.1))) [] =
      .ok (keywordLexer, 5) := by
  have root : Lexer.make 0 keywordSettings = .ok (.ofOrdered 0 keywordSettings keywords) :=
    Lexer.make_eq_ok.mpr ⟨check_of_isSound keywords_sound, _, keywords_inOrder, rfl⟩
  have distinct : (keywordSettings.terminals.map Terminal.name).Nodup := by decide
  have own := ContextualLexer.make_ownLexer distinct keywords_inOrder
  have first : sortedSet ["IF", "MARK", "start"] = ["IF", "MARK", "start"] :=
    sortedSet_eq_self (by decide +kernel) (by decide)
  have second : sortedSet ["ONE"] = ["ONE"] := by decide +kernel
  have third : sortedSet ["WORD"] = ["WORD"] := by decide +kernel
  have last : sortedSet ["$END"] = ["$END"] := by decide +kernel
  have empty : sortedSet [] = [] := by decide +kernel
  have silent : keywordSettings.ignored = [] := by rfl
  simp [keywordTable, ContextualLexer.make, ContextualLexer.makeLexers, first, second, third, last,
    empty, assoc?, own, root, silent, bind, Except.bind, pure, Except.pure]
  rfl

/-- An expression that refers to one of its groups by number, and another one. -/
def references : List Terminal :=
  [{ name := "B", pattern := { kind := .expression, value := "b+" } },
    { name := "A", pattern := { kind := .expression, value := "(a)(b)(c)\\3" } }]

/-- A text is an A, with or without a B after it. -/
def referenceRules : List Rule :=
  [{ origin := "start", expansion := [.terminal "A" false] },
    { origin := "start", expansion := [.terminal "A" false, .terminal "B" false] }]

def referenceTable : Table State where
  rows := [
    (.number 0, [("A", .shift (.number 1)), ("start", .shift (.number 3))]),
    (.number 1, [("$END", .reduce referenceRules[0]), ("B", .shift (.number 2))]),
    (.number 2, [("$END", .reduce referenceRules[1])]),
    (.number 3, [])]
  starts := [("start", .number 0)]
  ends := [("start", .number 3)]

def referenceSettings : LexerSettings := Parser.settings references [] [] {}

/-- Where the text begins, the groups of an A have other numbers than in the root lexer. -/
def referenceLexer : ContextualLexer where
  lexers := [
    (.number 0, ContextualLexer.ownLexer referenceSettings ["A", "start"] 1),
    (.number 1, ContextualLexer.ownLexer referenceSettings ["$END", "B"] 2),
    (.number 2, ContextualLexer.ownLexer referenceSettings ["$END"] 3),
    (.number 3, ContextualLexer.ownLexer referenceSettings [] 4)]
  root := .ofOrdered 0 referenceSettings references

theorem references_inOrder : Lexer.inOrder references = .ok references :=
  Lexer.inOrder_of_isOrdered (by decide +kernel)

theorem references_sound : isSound references referenceRules referenceTable [] = true := by
  decide +kernel

theorem make_referenceLexer : ContextualLexer.make 0 referenceSettings
    (referenceTable.rows.map fun entry => (entry.1, entry.2.map (·.1))) [] =
      .ok (referenceLexer, 4) := by
  have root : Lexer.make 0 referenceSettings = .ok (.ofOrdered 0 referenceSettings references) :=
    Lexer.make_eq_ok.mpr ⟨check_of_isSound references_sound, _, references_inOrder, rfl⟩
  have distinct : (referenceSettings.terminals.map Terminal.name).Nodup := by decide
  have own := ContextualLexer.make_ownLexer distinct references_inOrder
  have first : sortedSet ["A", "start"] = ["A", "start"] :=
    sortedSet_eq_self (by decide +kernel) (by decide)
  have second : sortedSet ["$END", "B"] = ["$END", "B"] :=
    sortedSet_eq_self (by decide +kernel) (by decide)
  have third : sortedSet ["$END"] = ["$END"] := by decide +kernel
  have empty : sortedSet [] = [] := by decide +kernel
  have silent : referenceSettings.ignored = [] := by rfl
  simp [referenceTable, ContextualLexer.make, ContextualLexer.makeLexers, first, second, third,
    empty, assoc?, own, root, silent, bind, Except.bind, pure, Except.pure]
  rfl

/-- Two grammars with a text each that only a basic lexer gets through. The mark overtakes the
keyword where no word is expected, and where it is a B that is not expected, the groups of an A are
numbered anew. -/
theorem parse_contextual_fails :
    (keywords.map Terminal.name).Nodup ∧ Breaks keywords keywordRules keywordTable "if1" ∧
      (references.map Terminal.name).Nodup ∧
        Breaks references referenceRules referenceTable "abca" := by
  refine ⟨by decide, ?_, by decide, ?_⟩
  · exact breaks_of_blame (some "UnexpectedEOF") (some 0) keywords_sound keywords_inOrder
      make_keywordLexer (by decide +kernel) (by decide +kernel)
  · exact breaks_of_blame (some "UnexpectedToken") (some 0) references_sound references_inOrder
      make_referenceLexer (by decide +kernel) (by decide +kernel)

end Parser

end Lalr
