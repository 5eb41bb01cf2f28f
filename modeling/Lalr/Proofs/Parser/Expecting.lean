import Lalr.Proofs.Lexer.Rearranging
import Lalr.Proofs.Lexer.Retyping
import Lalr.Proofs.Parser.Acceptance
import Lalr.Proofs.Parser.Blaming
import Lalr.Proofs.Parser.Narrowing

/-!
# What a failure expects

A failure about a token says what was expected in its place. Where the table has rejected the token,
these are the terminals that the state has entries for, and whatever would be accepted is among
them. Where the lexer of a state was stuck and the root lexer has found a token there, they are the
terminals that the lexer of the state hands out under their own names. Terminals that are ignored,
literals that are left to an expression, and the end of the input are not among these, although the
state may accept them.
-/

namespace Lalr

namespace Lexer

variable {lexer : Lexer} {vocabulary : Vocabulary} {standing : Option Standing}
  {met : Cursor} {before after : Workspace} {failure : Failure}

/-- Whether a lexer blames a text only where it is stuck: neither its callbacks do so nor what has
to be prepared. -/
structure Innocent (lexer : Lexer) : Prop where
  callbacks : ∀ entry ∈ lexer.callbacks, ∀ token, (entry.2 token).Unstuck
  prepared : Unstuck lexer.vocabulary.get.1

theorem innocent_of_make {number : Nat} {settings : LexerSettings}
    (made : make number settings = .ok lexer)
    (callbacks : ∀ entry ∈ settings.callbacks, ∀ token, (entry.2 token).Unstuck) :
    lexer.Innocent := by
  constructor
  · rw [callbacks_of_make made]
    exact callbacks
  · rcases make_eq_ok.mp made with ⟨_, ordered, _, rfl⟩
    exact Vocabulary.prepare_unstuck []

theorem Innocent.callBack (innocent : lexer.Innocent) (token : Token) :
    (lexer.callBack vocabulary token).Unstuck := by
  unfold Lexer.callBack
  dsimp only
  split
  next callback known =>
    split
    · exact innocent.callbacks _ (mem_of_assoc? known) _
    · exact .pure _
  next => exact .pure _

/-- A failure of a lexer that blames the text says where the lexer is stuck. Induction on the
bound. -/
theorem Innocent.stuck_of_nextWithin (innocent : lexer.Innocent) (isStuck : failure.isStuck = true)
    (fuel : Nat) : ∀ {before : Workspace} {cursor : Cursor},
    (lexer.nextWithin standing fuel cursor).Gives before (.error failure, met) after →
    ∃ vocabulary cursor, lexer.vocabulary.get.1 = .ok vocabulary ∧
      failure = lexer.stuck vocabulary cursor standing := by
  induction fuel with
  | zero =>
      intro before cursor gives
      rcases Work.gives_pure.mp gives with ⟨same, _⟩
      split at same
      · cases same
      · cases same
        cases isStuck
  | succ fuel ih =>
      intro before cursor gives
      rw [nextWithin] at gives
      split at gives
      next =>
        rcases Work.gives_pure.mp gives with ⟨same, _⟩
        cases same
      next =>
        rcases Work.gives_bind.mp gives with ⟨opened, _, opening, gives⟩
        rcases openVocabulary_gives opening with ⟨rfl, _⟩
        cases prepared : lexer.vocabulary.get.1 with
        | error failure' =>
            rw [prepared] at gives
            rcases Work.gives_pure.mp gives with ⟨same, _⟩
            cases same
            rw [innocent.prepared _ prepared] at isStuck
            cases isStuck
        | ok vocabulary =>
            rw [prepared] at gives
            dsimp only at gives
            split at gives
            next =>
              rcases Work.gives_pure.mp gives with ⟨same, _⟩
              cases same
              exact ⟨vocabulary, _, rfl, rfl⟩
            next stop name found =>
              rcases Work.gives_bind.mp gives with ⟨value, _, calling, gives⟩
              cases value with
              | error failure' =>
                  rcases Work.gives_pure.mp gives with ⟨same, _⟩
                  cases same
                  rw [(innocent.callBack _).isStuck calling] at isStuck
                  cases isStuck
              | ok value =>
                  dsimp only at gives
                  split at gives
                  next =>
                    rcases ih gives with ⟨vocabulary', cursor', prepared', same⟩
                    exact ⟨vocabulary', cursor', prepared ▸ prepared', same⟩
                  next =>
                    split at gives
                    next =>
                      rcases Work.gives_pure.mp gives with ⟨same, _⟩
                      cases same
                    next =>
                      rcases Work.gives_bind.mp gives with ⟨_, _, _, gives⟩
                      rcases Work.gives_pure.mp gives with ⟨same, _⟩
                      cases same
                      cases isStuck

theorem Innocent.stuck_of_next (innocent : lexer.Innocent) {cursor : Cursor}
    (gives : (lexer.next standing cursor).Gives before (.error failure, met) after)
    (isStuck : failure.isStuck = true) :
    ∃ vocabulary cursor, lexer.vocabulary.get.1 = .ok vocabulary ∧
      failure = lexer.stuck vocabulary cursor standing :=
  innocent.stuck_of_nextWithin isStuck _ gives

/-- No lexer blames a token. -/
theorem Innocent.ne_stuckToken (innocent : lexer.Innocent) {cursor : Cursor} {stuck : StuckToken} :
    ¬(lexer.next standing cursor).Gives before (.error (.stuckToken stuck), met) after := by
  intro gives
  rcases innocent.stuck_of_next gives rfl with ⟨_, _, _, same⟩
  cases same

theorem mem_allowed {kind : String} :
    kind ∈ lexer.allowed vocabulary ↔
      (kind ∈ vocabulary.scanner.names ∧ kind ∉ lexer.ignored) ∨
        (kind = "<END-OF-FILE>" ∧ ∀ name ∈ vocabulary.scanner.names,
          name ∈ lexer.ignored) := by
  have chosen : kind ∈ vocabulary.scanner.names.filter
      (fun name => !lexer.ignored.contains name) ↔
      kind ∈ vocabulary.scanner.names ∧ kind ∉ lexer.ignored := by
    simp [List.mem_filter]
  have nothing : vocabulary.scanner.names.filter (fun name => !lexer.ignored.contains name) = [] ↔
      ∀ name ∈ vocabulary.scanner.names, name ∈ lexer.ignored := by
    simp [List.filter_eq_nil_iff]
  rw [← chosen, ← nothing, allowed]
  cases vocabulary.scanner.names.filter fun name => !lexer.ignored.contains name with
  | nil => simp
  | cons name names => simp [mem_sortedSet]

end Lexer

/-- A contextual lexer blames a token only where the lexer of the state is stuck, and then it
expects what that lexer is allowed. -/
theorem ContextualLexer.stuck_of_next {lexer : ContextualLexer} {standing : Option Standing}
    {cursor met : Cursor} {before after : Workspace} {stuck : StuckToken}
    (root : lexer.root.Innocent) (each : ∀ entry ∈ lexer.lexers, entry.2.Innocent)
    (gives : (lexer.next standing cursor).Gives before (.error (.stuckToken stuck), met) after) :
    ∃ place own vocabulary, standing = some place ∧
      assoc? lexer.lexers place.state = some own ∧
      own.vocabulary.get.1 = .ok vocabulary ∧ stuck.expected = own.allowed vocabulary := by
  unfold ContextualLexer.next at gives
  split at gives
  next =>
    rcases Work.gives_pure.mp gives with ⟨same, _⟩
    cases same
  next place =>
    split at gives
    next =>
      rcases Work.gives_pure.mp gives with ⟨same, _⟩
      cases same
    next own known =>
      have innocent := each _ (mem_of_assoc? known)
      rcases Work.gives_bind.mp gives with ⟨⟨answer, next⟩, _, asked, gives⟩
      dsimp only at gives
      split at gives
      next blamed cursor' same =>
        cases same
        rcases innocent.stuck_of_next asked rfl with ⟨vocabulary, _, prepared, said⟩
        rcases Work.gives_bind.mp gives with ⟨⟨answer', _⟩, _, asked', gives⟩
        rcases Work.gives_pure.mp gives with ⟨same, _⟩
        cases said
        rcases answer' with failure | _ | token
        · cases failure with
          | stuckToken stuck' => exact absurd asked' root.ne_stuckToken
          | _ => cases same
        · cases same
        · cases same
          exact ⟨place, own, vocabulary, rfl, known, prepared, rfl⟩
      next =>
        rcases Work.gives_pure.mp gives with ⟨same, _⟩
        cases same
        exact absurd asked innocent.ne_stuckToken

namespace LexerSettings

variable {settings : LexerSettings} {row : Row State}

/-- Whether the lexer of a state with some entries hands out a kind of token under its own name. The
kind is that of an entry and of a terminal that is not ignored and not left to an expression. -/
def HandsOut (settings : LexerSettings) (row : Row State) (kind : String) : Prop :=
  kind ∈ row.map (·.1) ∧ kind ∈ settings.terminals.map Terminal.name ∧
    kind ∉ settings.ignored ∧
    ¬Vocabulary.Replaced settings.flags (settings.within row).terminals kind

theorem mem_names_within {kind : String} :
    kind ∈ (settings.within row).terminals.map Terminal.name ↔
      kind ∈ settings.namesIn row ∧ kind ∈ settings.terminals.map Terminal.name := by
  simp only [within, ContextualLexer.settingsFor, List.map_map, List.mem_map, List.mem_filter]
  constructor
  · rintro ⟨entry, ⟨member, tried⟩, rfl⟩
    rcases List.mem_map.mp (Data.mem_of_settle member) with ⟨terminal, among, rfl⟩
    exact ⟨List.contains_iff_mem.mp tried, terminal, among, rfl⟩
  · rintro ⟨tried, terminal, among, rfl⟩
    have keys : terminal.name ∈ (settings.terminals.map fun terminal =>
        (terminal.name, terminal)).map (·.1) := by
      rw [List.map_map]
      exact List.mem_map_of_mem among
    rcases List.mem_map.mp (Data.mem_keys_settle keys) with ⟨entry, member, same⟩
    rcases List.mem_map.mp (Data.mem_of_settle member) with ⟨terminal', among', rfl⟩
    exact ⟨_, ⟨member, List.contains_iff_mem.mpr (same ▸ tried)⟩, same⟩

/-- What the lexer of a state is allowed are the kinds of token that it hands out, or the end of the
input by another name if there are none. -/
theorem mem_allowed_within {own : Lexer} {vocabulary : Vocabulary} {number : Nat}
    (made : Lexer.make number (settings.within row) = .ok own)
    (prepared : own.vocabulary.get.1 = .ok vocabulary) (kind : String) :
    kind ∈ own.allowed vocabulary ↔ settings.HandsOut row kind ∨
      (kind = "<END-OF-FILE>" ∧ ∀ other, ¬settings.HandsOut row other) := by
  rcases Lexer.vocabulary_of_make made prepared with ⟨ordered, permuted, yields⟩
  change (Vocabulary.prepare ordered settings.flags).Yields vocabulary at yields
  rcases Vocabulary.prepare_yields yields with ⟨left, scanner, ⟨replaced, replaces, rfl⟩, _⟩
  have ignored : own.ignored = (settings.within row).ignored := Lexer.ignored_of_make made
  have same (name : String) : Vocabulary.Replaced settings.flags ordered name ↔
      Vocabulary.Replaced settings.flags (settings.within row).terminals name :=
    ⟨Vocabulary.Replaced.mono permuted.subset, Vocabulary.Replaced.mono permuted.symm.subset⟩
  have named (name : String) : name ∈ ordered.map Terminal.name ↔
      name ∈ settings.namesIn row ∧ name ∈ settings.terminals.map Terminal.name := by
    rw [(permuted.map Terminal.name).mem_iff]
    exact mem_names_within
  have handed (name : String) :
      name ∈ vocabulary.scanner.names ∧ name ∉ own.ignored ↔
        settings.HandsOut row name := by
    have among : name ∈ vocabulary.scanner.names ↔
        name ∈ ordered.map Terminal.name ∧
          ¬Vocabulary.Replaced settings.flags (settings.within row).terminals name := by
      rw [Scanner.names, (Scanner.make_eq_ok scanner).1, ← same, ← replaces]
      simp only [List.mem_map, List.mem_filter, Bool.not_eq_true', List.contains_eq_mem,
        decide_eq_false_iff_not]
      constructor
      · rintro ⟨terminal, ⟨member, kept⟩, rfl⟩
        exact ⟨⟨terminal, member, rfl⟩, kept⟩
      · rintro ⟨⟨terminal, member, rfl⟩, kept⟩
        exact ⟨terminal, ⟨member, kept⟩, rfl⟩
    rw [among, named, ignored, namesIn, List.mem_append, HandsOut]
    show _ ∧ name ∉ settings.ignored ↔ _
    constructor
    · rintro ⟨⟨⟨entry | passed, known⟩, kept⟩, shown⟩
      · exact ⟨entry, known, shown, kept⟩
      · exact absurd passed shown
    · rintro ⟨entry, known, shown, kept⟩
      exact ⟨⟨⟨.inl entry, known⟩, kept⟩, shown⟩
  rw [Lexer.mem_allowed, handed]
  refine or_congr_right (and_congr_right fun _ => forall_congr' fun name => ?_)
  rw [← handed, not_and_not_right]

end LexerSettings

/-- On states whose top has no reductions none are made, let alone endlessly many. -/
theorem Table.not_diverges_of_shifts {table : Table State} {states : List State} {row : Row State}
    (top : table.topRow states = .ok row)
    (shifts : ∀ entry ∈ row, ∃ target, entry.2 = .shift target)
    (kind : String) (ending : Option State) : ¬table.Diverges kind ending states := by
  intro endless
  have stops : table.round? kind ending states = none := by
    unfold round?
    split
    next rule move =>
      rw [Table.move, top] at move
      dsimp only at move
      split at move
      · cases move
      · cases move
      next reduces known =>
        rcases shifts _ (mem_of_assoc? known) with ⟨target, same⟩
        cases same
    next => rfl
  have first := endless 1
  rw [rounds, stops] at first
  cases first

namespace Parser

variable {parser : Parser} {session met next final : Session} {before after : Workspace}
  {stuck : StuckToken} {token : Token} {answer : Except Failure Value}

/-! ## Where a failure has its expected kinds from -/

/-- Where the kinds that a failure expects come from, if the parse stands on some states: the row on
top, where the table rejects a token, or the lexer of the state on top, where that lexer is
stuck. -/
inductive Expects (parser : Parser) (states : List State) : List String → Prop
  | rejects {kind : String} {expected : List String}
      (move : parser.table.move states kind = .rejected expected) : Expects parser states expected
  | reports {lexer : ContextualLexer} {own : Lexer} {vocabulary : Vocabulary} {state : State}
      (contextual : parser.source.reader = .contextual lexer) (top : states.head? = some state)
      (known : assoc? lexer.lexers state = some own)
      (prepared : own.vocabulary.get.1 = .ok vocabulary) :
      Expects parser states (own.allowed vocabulary)

/-- A parser that blames its input only where a lexer is stuck or the table rejects a token. -/
structure Innocent (parser : Parser) : Prop where
  plain : parser.source.postLexer = none
  lexers : ∀ lexer ∈ parser.source.reader.lexers, lexer.Innocent
  reductions : parser.reductions.Unstuck

theorem fetch_eq {found : Except Failure (Option Token)}
    (fetched : (parser.fetch session).Gives before (found, met) after) :
    met = { session with cursor := met.cursor } := by
  unfold fetch at fetched
  cases here : session.cursor with
  | none =>
      rw [here] at fetched
      rcases Work.gives_pure.mp fetched with ⟨same, _⟩
      cases same
      rfl
  | some cursor =>
      rw [here] at fetched
      rcases Work.gives_map.mp fetched with ⟨⟨answer, cursor'⟩, _, same⟩
      cases same
      rfl

/-- A token is blamed before it is fed only where the lexer of the state on top is stuck. -/
theorem exists_own_of_fetch (innocent : parser.Innocent)
    (fetched : (parser.fetch session).Gives before (.error (.stuckToken stuck), met) after) :
    ∃ lexer own vocabulary state, parser.source.reader = .contextual lexer ∧
      session.stack.states.head? = some state ∧ assoc? lexer.lexers state = some own ∧
      own.vocabulary.get.1 = .ok vocabulary ∧ stuck.expected = own.allowed vocabulary := by
  unfold fetch at fetched
  cases here : session.cursor with
  | none =>
      rw [here] at fetched
      rcases Work.gives_pure.mp fetched with ⟨same, _⟩
      cases same
  | some cursor =>
      rw [here] at fetched
      rcases Work.gives_map.mp fetched with ⟨⟨answer, cursor'⟩, asked, same⟩
      cases same
      have each := innocent.lexers
      cases reads : parser.source.reader with
      | basic lexer =>
          rw [reads] at asked each
          exact absurd asked (each lexer (List.mem_singleton_self lexer)).ne_stuckToken
      | contextual lexer =>
          rw [reads] at asked each
          simp only [Reader.lexers, List.forall_mem_cons, List.forall_mem_map] at each
          rcases lexer.stuck_of_next each.1 each.2 asked with
            ⟨place, own, vocabulary, stands, known, prepared, same⟩
          rcases Option.map_eq_some_iff.mp stands with ⟨state, top, rfl⟩
          exact ⟨lexer, own, vocabulary, state, rfl, top, known, prepared, same⟩

/-- What tokens have led to from a new session may be led on by another token. -/
theorem Arrives.fed {isEnd : Bool} (arrives : ∃ shifted, parser.Arrives shifted session)
    (fed : (parser.feedAs isEnd session token).Gives before (answer, next) after) :
    ∃ shifted, parser.Arrives shifted next := by
  rcases arrives with ⟨shifted, arrives⟩
  by_cases shifts : parser.Shifts isEnd session token before answer
  · exact ⟨_, .shift arrives fed shifts⟩
  · exact ⟨_, .feed arrives fed shifts⟩

/-- A run that fails with a token stands where it has failed, on states from which it has the kinds
that it expects. Induction on the tokens that it takes. -/
theorem Innocent.runWithin_expects (innocent : parser.Innocent)
    {stream : TokenStream} (fuel : Nat) :
    ∀ {session : Session} {before : Workspace} {last : Option Token},
      (∃ shifted, parser.Arrives shifted session) →
      (parser.runWithin fuel stream last session).Gives before (.error (.stuckToken stuck), final)
        after →
      stuck.standpoint = some final.standpoint ∧ final.starting = session.starting ∧
        (∃ shifted, parser.Arrives shifted final) ∧
        parser.Expects final.stack.states stuck.expected := by
  -- A failure that goes through the parse keeps what it expects, and is told where it stands.
  have passes {failure : Failure} {standpoint : Standpoint} {last : Option Token}
      (same : .stuckToken stuck = failure.passing standpoint last) :
      ∃ raw : StuckToken, failure = .stuckToken raw ∧ raw.expected = stuck.expected ∧
        stuck.standpoint = some standpoint := by
    cases failure with
    | stuckToken raw =>
        cases same
        exact ⟨raw, rfl, rfl, rfl⟩
    | _ => cases same
  induction fuel with
  | zero =>
      intro session before last _ gives
      rcases interrupt_gives gives with ⟨same, _⟩
      cases same
  | succ fuel ih =>
      intro session before last arrives gives
      rw [runWithin_succ innocent.plain, Work.gives_bind] at gives
      rcases gives with ⟨⟨found, met⟩, _, fetched, gives⟩
      have same := fetch_eq fetched
      have here : ∃ shifted, parser.Arrives shifted met := by
        rcases arrives with ⟨shifted, arrives⟩
        exact ⟨shifted, .aside arrives (by rw [same]) (by rw [same]) (by rw [same])⟩
      have starting : met.starting = session.starting := by rw [same]
      -- A token may be rejected, and so may the end of the input.
      have rejects {isEnd : Bool} {token : Token} {last : Option Token} {failure : Failure}
          {next : Session} {between between' : Workspace}
          (fed : (parser.feedAs isEnd met token).Gives between (.error failure, next) between')
          (ended : (parser.interrupt failure last next).Gives between'
            (.error (.stuckToken stuck), final) after) :
          stuck.standpoint = some final.standpoint ∧ final.starting = session.starting ∧
            (∃ shifted, parser.Arrives shifted final) ∧
            parser.Expects final.stack.states stuck.expected := by
        rcases interrupt_gives ended with ⟨same, rfl⟩
        rcases passes (Except.error.inj same) with ⟨raw, rfl, expects, stands⟩
        rcases feedAs_stuck innocent.reductions fed rfl with ⟨expected, said, move⟩
        cases said
        refine ⟨stands, by rw [feedAs_eq fed, starting], Arrives.fed here fed, ?_⟩
        rw [← expects]
        exact .rejects move
      rcases found with failure | _ | token
      · rcases interrupt_gives gives with ⟨ended, rfl⟩
        rcases passes (Except.error.inj ended) with ⟨raw, rfl, expects, stands⟩
        refine ⟨stands, starting, here, ?_⟩
        rcases exists_own_of_fetch innocent fetched with
          ⟨lexer, own, vocabulary, state, reads, top, known, prepared, allowed⟩
        rw [← expects, allowed, show final.stack = session.stack by rw [same]]
        exact .reports reads top known prepared
      · rcases Work.gives_bind.mp gives with ⟨⟨fed, next⟩, _, feeding, gives⟩
        cases fed with
        | ok value =>
            rcases Work.gives_pure.mp gives with ⟨ended, _⟩
            cases ended
        | error failure => exact rejects feeding gives
      · rcases Work.gives_bind.mp gives with ⟨⟨fed, next⟩, _, feeding, gives⟩
        cases fed with
        | ok value =>
            rcases ih (Arrives.fed here feeding) gives with ⟨stands, started, arrived, expects⟩
            refine ⟨stands, ?_, arrived, expects⟩
            rw [started, feedAs_eq feeding, starting]
        | error failure => exact rejects feeding gives

/-! ## What would be accepted -/

/-- Of some kinds of token no others are found to be taken. -/
theorem taken_subset {ending : State} {states : List State} (kinds : List String) :
    ∀ {before : Workspace} {found : List String},
      (parser.table.taken traceAction ending states kinds).Gives before (.ok found) after →
      found ⊆ kinds := by
  induction kinds with
  | nil =>
      intro before found gives
      rcases Work.gives_pure.mp gives with ⟨same, _⟩
      cases same
      simp
  | cons kind kinds ih =>
      intro before found gives
      unfold Table.taken at gives
      rcases Work.gives_bind.mp gives with ⟨answer, _, _, gives⟩
      cases answer with
      | error fault =>
          rcases Work.gives_pure.mp gives with ⟨same, _⟩
          cases same
      | ok isTaken =>
          rcases Work.gives_bind.mp gives with ⟨more, _, rest, gives⟩
          rcases Work.gives_pure.mp gives with ⟨same, rfl⟩
          cases more with
          | error fault => cases same
          | ok others =>
              have among := ih rest
              cases same
              cases isTaken with
              | true => exact List.cons_subset_cons kind among
              | false => exact List.subset_cons_of_subset kind among

/-- What would be accepted are terminals that the state on top has entries for. -/
theorem accepts_subset {standpoint : Standpoint} {accepted : List String} {row : Row State}
    (top : parser.table.topRow standpoint.states = .ok row)
    (gives : (parser.accepts standpoint).Gives before (.ok accepted) after) :
    ∀ kind ∈ accepted, kind ∈ Table.expected row := by
  rcases Work.gives_bind.mp gives with ⟨answer, _, tried, gives⟩
  cases answer with
  | error fault =>
      rcases Work.gives_pure.mp gives with ⟨same, _⟩
      cases same
  | ok found =>
      rcases Work.gives_bind.mp gives with ⟨_, _, _, gives⟩
      rcases Work.gives_pure.mp gives with ⟨same, _⟩
      cases same
      unfold Table.accepted at tried
      rw [top] at tried
      rcases Work.gives_bind.mp tried with ⟨taken, _, taking, tried⟩
      rcases Work.gives_pure.mp tried with ⟨same, _⟩
      cases taken with
      | error fault => cases same
      | ok kinds =>
          cases same
          intro kind member
          exact taken_subset _ taking (mem_sortedSet.mp member)

theorem acceptable_eq {standpoint : Standpoint} (stands : stuck.standpoint = some standpoint) :
    parser.acceptable (.stuckToken stuck) = parser.accepts standpoint := by
  rw [acceptable, stands]

/-! ## What a parse expects and what it accepts -/

variable {terminals : List Terminal} {rules : List Rule} {table : Table State}
  {ignored : List Data} {options : Options} {made made' : Workspace} {flags : RegexFlags}

/-- The lexer of a state on top of a parse has been made for the row of the state. -/
theorem exists_within
    (make : (make terminals rules table ignored options).Yields made parser made')
    (plain : options.postLexer = .ok none) (flagged : flagsFor terminals options = .ok flags)
    {lexer : ContextualLexer} (contextual : parser.source.reader = .contextual lexer)
    {state : State} {row : Row State} (here : parser.table.row? state = some row) {own : Lexer}
    (known : assoc? lexer.lexers state = some own) :
    options.contextual = true ∧ ∃ number callbacks,
      Lexer.make number
        ((Parser.settings terminals ignored callbacks flags).within row) = .ok own := by
  rcases assemble_of_make make with ⟨count, assembled, _⟩
  simp only [assemble, bind_eq_ok] at assembled
  rcases assembled with
    ⟨_, _, _, _, _, _, callbacks, _, flags', flagged', ⟨source, _⟩, sourced, _, _, _,
    _, assembled⟩
  cases assembled
  cases flagged.symm.trans flagged'
  unfold makeSource at sourced
  split at sourced
  next isContextual =>
    simp only [plain, bind_eq_ok] at sourced
    rcases sourced with ⟨_, ⟨⟩, ⟨lexer', others⟩, lexed, sourced⟩
    cases sourced
    cases contextual
    have listed : assoc? (table.rows.map fun entry => (entry.1, entry.2.map (·.1))) state =
        some (row.map (·.1)) := by
      rw [assoc?_map, show assoc? table.rows state = some row from here]
      rfl
    rcases ContextualLexer.exists_own lexed listed with ⟨own', known', number, made⟩
    cases known.symm.trans known'
    rw [Option.map_none, Option.getD_none, List.append_nil] at made
    exact ⟨isContextual, number, callbacks, made⟩
  next =>
    rcases bind_eq_ok.mp sourced with ⟨_, _, sourced⟩
    rcases bind_eq_ok.mp sourced with ⟨_, _, sourced⟩
    cases sourced
    cases contextual

theorem lexers_innocent_of_make
    (make : (make terminals rules table ignored options).Yields made parser made')
    (fair : ∀ callbacks, options.callbacks = .ok callbacks →
      ∀ entry ∈ callbacks, ∀ token, (entry.2 token).Unstuck) :
    ∀ lexer ∈ parser.source.reader.lexers, lexer.Innocent := by
  rcases assemble_of_make make with ⟨count, assembled, _⟩
  simp only [assemble, bind_eq_ok] at assembled
  rcases assembled with
    ⟨_, _, _, _, _, _, callbacks, called, flags', _, ⟨source, _⟩, sourced, _, _, _,
    _, assembled⟩
  cases assembled
  have fair : ∀ entry ∈ callbacks, ∀ token, (entry.2 token).Unstuck := by
    apply fair
    cases given : options.callbacks with
    | error fault =>
        rw [given] at called
        cases called
    | ok given' =>
        rw [given] at called
        cases called
        rfl
  unfold makeSource at sourced
  split at sourced
  · rcases bind_eq_ok.mp sourced with ⟨_, _, sourced⟩
    rcases bind_eq_ok.mp sourced with ⟨⟨lexer, _⟩, lexed, sourced⟩
    cases sourced
    rcases ContextualLexer.make_eq_ok lexed with ⟨root, each⟩
    simp only [Reader.lexers, List.forall_mem_cons, List.forall_mem_map]
    refine ⟨Lexer.innocent_of_make root fair, ?_⟩
    intro entry member
    rcases exists_of_mem_right each member with ⟨_, _, _, _, own⟩
    exact Lexer.innocent_of_make own fair
  · rcases bind_eq_ok.mp sourced with ⟨lexer, lexed, sourced⟩
    rcases bind_eq_ok.mp sourced with ⟨_, _, sourced⟩
    cases sourced
    simp only [Reader.lexers, List.mem_singleton, forall_eq]
    exact Lexer.innocent_of_make lexed fair

/-- A failure expects what the row on top has entries for, or else what the lexer of the state on
top hands out. -/
theorem Expects.reads {states : List State} {row : Row State} {expected : List String}
    (expects : parser.Expects states expected)
    (make : (make terminals rules table ignored options).Yields made parser made')
    (plain : options.postLexer = .ok none) (flagged : flagsFor terminals options = .ok flags)
    (top : parser.table.topRow states = .ok row) :
    (∀ kind, kind ∈ expected ↔ kind ∈ Table.expected row) ∨
      options.contextual = true ∧ ∀ kind, kind ∈ expected ↔
        (Parser.settings terminals ignored [] flags).HandsOut row kind ∨
          (kind = "<END-OF-FILE>" ∧
            ∀ other, ¬(Parser.settings terminals ignored [] flags).HandsOut row other) := by
  cases expects with
  | rejects move =>
      left
      intro kind
      rw [Table.move, top] at move
      dsimp only at move
      split at move
      · cases move
        exact mem_sortedSet
      · cases move
      · cases move
  | @reports lexer own vocabulary state contextual head known prepared =>
      right
      have here : parser.table.row? state = some row := by
        rcases List.head?_eq_some_iff.mp head with ⟨below, stack⟩
        rw [stack, Table.topRow] at top
        split at top
        next row' read =>
          cases top
          exact read
        next => cases top
      rcases exists_within make plain flagged contextual here known with
        ⟨isContextual, number, callbacks, made⟩
      have allowed := LexerSettings.mem_allowed_within made prepared
      exact ⟨isContextual, allowed⟩

/-- A parser that has been made without a post-lexer blames its input only where a lexer is stuck or
the table rejects a token, if no callback and no handler does so. -/
theorem innocent_of_make
    (make : (make terminals rules table ignored options).Yields made parser made')
    (plain : options.postLexer = .ok none)
    (fair : ∀ callbacks, options.callbacks = .ok callbacks →
      ∀ entry ∈ callbacks, ∀ token, (entry.2 token).Unstuck)
    (calm : ∀ transformer, options.transformer = .ok (some transformer) → transformer.Unstuck) :
    parser.Innocent :=
  ⟨postLexer_of_make make plain, lexers_innocent_of_make make fair,
    reductions_unstuck_of_make make calm⟩

/-- What a failure expects covers what would be accepted, except where the lexer of a state hands
out less than the state accepts. Let the table be closed for the start symbol, without a post-lexer,
and let no callback and no handler blame the input. If a parse fails about a token, it can be asked
what would be accepted, or there is a kind of token on which its reductions never end. What it would
accept are terminals that the state has entries for. The failure expects just these terminals, or
else it comes from contextual lexers, and expects the kinds of token that the lexer of the state
hands out. So whatever would be accepted is expected, unless the state accepts what its lexer does
not hand out. -/
theorem expected_covers_accepts
    (make : (make terminals rules table ignored options).Yields made parser made')
    (plain : options.postLexer = .ok none) (flagged : flagsFor terminals options = .ok flags)
    (fair : ∀ callbacks, options.callbacks = .ok callbacks →
      ∀ entry ∈ callbacks, ∀ token, (entry.2 token).Unstuck)
    (calm : ∀ transformer, options.transformer = .ok (some transformer) → transformer.Unstuck)
    {text : String} {symbol : Option String}
    (started : parser.start (some text) symbol = .ok session)
    (closed : parser.table.Closed session.starting)
    (fails : (parser.parse text symbol).run.Gives before (.error (.stuckToken stuck)) after) :
    ∃ standpoint row, stuck.standpoint = some standpoint ∧
      parser.table.topRow standpoint.states = .ok row ∧
      (∀ asked, (∃ accepted later,
          (parser.acceptable (.stuckToken stuck)).Gives asked (.ok accepted) later) ∨
        ∃ kind, parser.table.Diverges kind
          (if kind = Token.endKind then some standpoint.ending else none) standpoint.states) ∧
      ((∀ kind, kind ∈ stuck.expected ↔ kind ∈ Table.expected row) ∨
        options.contextual = true ∧ ∀ kind, kind ∈ stuck.expected ↔
          (Parser.settings terminals ignored [] flags).HandsOut row kind ∨
            (kind = "<END-OF-FILE>" ∧
              ∀ other, ¬(Parser.settings terminals ignored [] flags).HandsOut row other)) ∧
      ∀ asked later accepted,
        (parser.acceptable (.stuckToken stuck)).Gives asked (.ok accepted) later →
          (∀ kind ∈ accepted, kind ∈ Table.expected row) ∧
          ((∀ kind ∈ accepted, kind ∈ stuck.expected) ∨ options.contextual = true ∧
            ∃ kind ∈ accepted,
              ¬(Parser.settings terminals ignored [] flags).HandsOut row kind) := by
  have innocent := innocent_of_make make plain fair calm
  rw [parse_run started] at fails
  rcases Work.gives_map.mp fails with ⟨⟨answer, final⟩, ran, same⟩
  cases same
  rcases innocent.runWithin_expects _ ⟨0, .start started⟩ ran with
    ⟨stands, starting, ⟨shifted, arrives⟩, expects⟩
  rw [← starting] at closed
  rcases arrives.derived closed.toCoherent with ⟨parts, derived⟩
  have found : ∃ row, parser.table.topRow final.stack.states = .ok row := by
    cases read : parser.table.topRow final.stack.states with
    | ok row => exact ⟨row, rfl⟩
    | error fault =>
        have lost : parser.table.move final.stack.states "" = .lost fault := by
          rw [Table.move, read]
        exact absurd lost (closed.move_ne_lost derived.path)
  rcases found with ⟨row, top⟩
  have comes := expects.reads make plain flagged top
  refine ⟨final.standpoint, row, stands, top, ?_, comes, ?_⟩
  · intro asked
    rw [acceptable_eq stands]
    by_cases ends : ∀ kind,
        ¬parser.table.Diverges kind (endingFor final kind) final.stack.states
    · rcases exists_accepted arrives closed ends asked with ⟨accepted, later, gives, _⟩
      exact .inl ⟨accepted, later, gives⟩
    · rcases not_forall_not.mp ends with ⟨kind, diverges⟩
      exact .inr ⟨kind, diverges⟩
  · intro asked later accepted gives
    rw [acceptable_eq stands] at gives
    have among := accepts_subset top gives
    refine ⟨among, ?_⟩
    rcases comes with exactly | ⟨isContextual, exactly⟩
    · exact .inl fun kind member => (exactly kind).mpr (among kind member)
    · by_cases all : ∀ kind ∈ accepted,
          (Parser.settings terminals ignored [] flags).HandsOut row kind
      · exact .inl fun kind member => (exactly kind).mpr (.inl (all kind member))
      · rcases not_forall.mp all with ⟨kind, missing⟩
        rcases Classical.not_imp.mp missing with ⟨member, missing⟩
        exact .inr ⟨isContextual, kind, member, missing⟩

/-- A parse that fails before it has found a token fails where it has begun. -/
theorem exists_parse_of_fetch (plain : parser.source.postLexer = none) {text : String}
    {symbol : Option String} (started : parser.start (some text) symbol = .ok session)
    {failure : Failure} {between : Workspace}
    (fetched : (parser.fetch session).Gives before (.error failure, met) between) :
    ∃ last after, (parser.parse text symbol).run.Gives before
      (.error (failure.passing met.standpoint last)) after := by
  rcases ran : StateT.run (m := Id) (parser.interrupt failure session.last? met) between with
    ⟨⟨answer, final⟩, after⟩
  rcases interrupt_gives ran with ⟨rfl, rfl⟩
  refine ⟨session.last?, after, ?_⟩
  rw [parse_run started, run, runWithin_succ plain]
  exact Work.gives_map.mpr ⟨_, Work.gives_bind.mpr ⟨_, _, fetched, ran⟩, rfl⟩

/-! ## A keyword in the place of a name -/

/-- A name, a number, and a keyword that is a name as well. -/
def mentions : List Terminal :=
  [{ name := "NAME", pattern := { kind := .expression, value := "[a-z]+" } },
    { name := "NUM", pattern := { kind := .expression, value := "[0-9]+" } },
    { name := "IF", pattern := { kind := .literal, value := "if" } }]

/-- A text is a name or the keyword. -/
def mentionRules : List Rule :=
  [{ origin := "start", expansion := [.terminal "NAME" false] },
    { origin := "start", expansion := [.terminal "IF" false] }]

/-- What may come first. -/
def mentionRow : Row State :=
  [("NAME", .shift (.number 1)), ("IF", .shift (.number 3)), ("start", .shift (.number 2))]

def mentionTable : Table State where
  rows := [
    (.number 0, mentionRow),
    (.number 1, [("$END", .reduce mentionRules[0])]),
    (.number 2, []),
    (.number 3, [("$END", .reduce mentionRules[1])])]
  starts := [("start", .number 0)]
  ends := [("start", .number 2)]

theorem mentionTable_closed : mentionTable.Closed (.number 0) := by
  have proper : mentionTable.Proper "start" (.number 0) (.number 2) :=
    Table.proper_of_isProper (by decide)
  exact { proper.toCoherent with
    start_row := by decide
    target_row := proper.target_row
    not_moves_end := proper.not_moves_end }

/-- Nothing is reduced where the text begins. -/
theorem mention_ends (kind : String) (ending : Option State) :
    ¬mentionTable.Diverges kind ending [.number 0] :=
  Table.not_diverges_of_shifts rfl (by simp [mentionRow]) kind ending

def mentionSettings : LexerSettings := Parser.settings mentions [] [] {}

/-- Where the text begins, names are tried in place of the keyword that they absorb. -/
def mentionLexer : ContextualLexer where
  lexers := [
    (.number 0, ContextualLexer.ownLexer mentionSettings ["NAME", "IF", "start"] 1),
    (.number 1, ContextualLexer.ownLexer mentionSettings ["$END"] 2),
    (.number 2, ContextualLexer.ownLexer mentionSettings [] 3),
    (.number 3, ContextualLexer.ownLexer mentionSettings ["$END"] 2)]
  root := .ofOrdered 0 mentionSettings mentions

/-- The parser for mentions with a basic lexer. -/
def plainMentioner : Parser := basicOf mentions mentionRules mentionTable []

/-- The parser for mentions with contextual lexers. -/
def mentioner : Parser := contextualOf mentions mentionRules mentionTable [] mentionLexer 3

/-- A new session for a number. -/
def mentioning : Session where
  stack := { states := [.number 0], values := [] }
  starting := .number 0
  ending := .number 2
  cursor := some (Cursor.ofText "1")

theorem mentions_inOrder : Lexer.inOrder mentions = .ok mentions :=
  Lexer.inOrder_of_isOrdered (by decide +kernel)

/-- The states on which a parser stands if it is stuck with a token. -/
def stuckOn (parser : Parser) (text : String) : Option (List State) :=
  match (StateT.run (m := Id) (parser.parse text none).run {}).1 with
  | .error (.stuckToken stuck) => stuck.standpoint.map (·.states)
  | _ => none

/-- Whether the first token of a session is in the wrong place. -/
def misplaced (parser : Parser) (session : Session) : Bool :=
  match (StateT.run (m := Id) (parser.fetch session) {}).1.1 with
  | .error (.stuckToken _) => true
  | _ => false

/-- What there is to see of the two parsers: with either lexer the parse is stuck where the number
stands, with contextual lexers even before it has found a token, and the names absorb the
keyword. -/
theorem mentions_stuck :
    isSound mentions mentionRules mentionTable [] = true ∧
    stuckOn plainMentioner "1" = some [.number 0] ∧ misplaced mentioner mentioning = true ∧
    mentions[2] ∈ Vocabulary.absorbedBy {}
      (mentionSettings.within mentionRow).terminals mentions[0] ∧
    mentions[0] ∈ (mentionSettings.within mentionRow).terminals ∧
    Vocabulary.replaces mentions[0] mentions[2] = true := by
  decide +kernel

theorem make_mentionLexer : ContextualLexer.make 0 mentionSettings
    (mentionTable.rows.map fun entry => (entry.1, entry.2.map (·.1))) [] =
      .ok (mentionLexer, 3) := by
  have root : Lexer.make 0 mentionSettings = .ok (.ofOrdered 0 mentionSettings mentions) :=
    Lexer.make_eq_ok.mpr ⟨check_of_isSound mentions_stuck.1, _, mentions_inOrder, rfl⟩
  have distinct : (mentionSettings.terminals.map Terminal.name).Nodup := by decide
  have own := ContextualLexer.make_ownLexer distinct mentions_inOrder
  have first : sortedSet ["NAME", "IF", "start"] = ["IF", "NAME", "start"] :=
    (sortedSet_congr fun _ => (List.Perm.swap _ _ _).mem_iff).trans
      (sortedSet_eq_self (by decide +kernel) (by decide))
  have last : sortedSet ["$END"] = ["$END"] := by decide +kernel
  have empty : sortedSet [] = [] := by decide +kernel
  have silent : mentionSettings.ignored = [] := by rfl
  simp [mentionTable, mentionRow, ContextualLexer.make, ContextualLexer.makeLexers,
    first, last, empty, assoc?, own, root, silent, bind, Except.bind, pure, Except.pure]
  rfl

/-- The keyword is left to the names that absorb it. -/
theorem not_handsOut_keyword : ¬mentionSettings.HandsOut mentionRow "IF" := by
  rcases mentions_stuck with ⟨_, _, _, absorbed, among, replaces⟩
  rintro ⟨_, _, _, kept⟩
  exact kept ⟨_, among, _, absorbed, replaces, rfl⟩

theorem exists_of_stuckOn {text : String} {states : List State}
    (stands : stuckOn parser text = some states) :
    ∃ stuck standpoint after, (parser.parse text none).run.Gives {}
      (.error (.stuckToken stuck)) after ∧
      stuck.standpoint = some standpoint ∧ standpoint.states = states := by
  rcases ran : StateT.run (m := Id) (parser.parse text none).run {} with ⟨answer, after⟩
  rw [stuckOn, ran] at stands
  dsimp only at stands
  split at stands
  next stuck =>
    rcases Option.map_eq_some_iff.mp stands with ⟨standpoint, stands, same⟩
    exact ⟨stuck, standpoint, after, ran, stands, same⟩
  next => cases stands

/-- There are no callbacks that could blame the input. -/
theorem mention_fair : ∀ callbacks,
    (.ok [] : Except Fault (List (String × TokenHandler))) = .ok callbacks →
      ∀ entry ∈ callbacks, ∀ token, (entry.2 token).Unstuck := by
  rintro _ ⟨⟩
  simp

theorem expected_covers_accepts_mention : ∃ parser made stuck after accepted later,
    (make mentions mentionRules mentionTable [] { contextual := false }).Yields {} parser made ∧
    (parser.parse "1" none).run.Gives {} (.error (.stuckToken stuck)) after ∧
    (parser.acceptable (.stuckToken stuck)).Gives after (.ok accepted) later ∧
    ∀ kind ∈ accepted, kind ∈ stuck.expected := by
  rcases mentions_stuck with ⟨sound, stands, _⟩
  rcases basicOf_made sound mentions_inOrder with ⟨made, make⟩
  rcases exists_of_stuckOn stands with ⟨stuck, standpoint, after, fails, stands, states⟩
  have started : plainMentioner.start (some "1") none = .ok mentioning := rfl
  rcases expected_covers_accepts make rfl rfl mention_fair (by rintro _ ⟨⟩) started
      mentionTable_closed fails with
    ⟨standpoint', row, stands', _, asks, _, covers⟩
  cases stands.symm.trans stands'
  rcases asks after with ⟨accepted, later, asked⟩ | ⟨kind, diverges⟩
  · refine ⟨_, made, stuck, after, accepted, later, make, fails, asked, ?_⟩
    rcases (covers after later accepted asked).2 with all | ⟨contextual, _⟩
    · exact all
    · cases contextual
  · rw [states] at diverges
    exact absurd diverges (mention_ends kind _)

/-- With contextual lexers the keyword would be accepted where the number stands, and is not
expected. -/
theorem accepted_unexpected : ∃ parser made stuck after accepted later,
    (make mentions mentionRules mentionTable [] { contextual := true }).Yields {} parser made ∧
    parser.table.Closed (.number 0) ∧
    (parser.parse "1" none).run.Gives {} (.error (.stuckToken stuck)) after ∧
    (parser.acceptable (.stuckToken stuck)).Gives after (.ok accepted) later ∧
    "IF" ∈ accepted ∧ "IF" ∉ stuck.expected := by
  rcases mentions_stuck with ⟨sound, _, stands, _⟩
  rcases contextualOf_made sound mentions_inOrder make_mentionLexer with ⟨made, make⟩
  have started : mentioner.start (some "1") none = .ok mentioning := rfl
  rcases ran : StateT.run (m := Id) (mentioner.fetch mentioning) {} with
    ⟨⟨answer, met⟩, between⟩
  rw [misplaced, ran] at stands
  dsimp only at stands
  split at stands
  next raw =>
    have innocent := innocent_of_make make rfl mention_fair (by rintro _ ⟨⟩)
    have same := fetch_eq ran
    have arrives : mentioner.Arrives 0 met := by
      refine .aside (.start started) ?_ ?_ ?_
      · rw [same]
      · rw [same]
      · rw [same]
    have stack : met.stack.states = [.number 0] := by rw [same]; rfl
    have closed : mentioner.table.Closed met.starting := by
      rw [same]
      exact mentionTable_closed
    have ends (kind : String) :
        ¬mentioner.table.Diverges kind (endingFor met kind) met.stack.states := by
      rw [stack]
      exact mention_ends kind _
    rcases exists_parse_of_fetch rfl started ran with ⟨last, after, fails⟩
    rcases exists_accepted arrives closed ends after with ⟨accepted, later, asked, _, accepts⟩
    refine ⟨_, made, _, after, accepted, later, make, mentionTable_closed, fails, asked, ?_, ?_⟩
    · rw [accepts "IF" (by decide), stack]
      exact ⟨_, .shifted rfl rfl⟩
    · rcases exists_own_of_fetch innocent ran with
        ⟨lexer, own, vocabulary, state, reads, top, known, prepared, allowed⟩
      cases top
      rcases exists_within make rfl rfl reads
        (show mentionTable.row? (.number 0) = some mentionRow from rfl)
        known with ⟨_, number, callbacks, ownMade⟩
      have lists := LexerSettings.mem_allowed_within ownMade prepared "IF"
      intro expected
      rcases lists.mp (allowed ▸ expected) with handed | ⟨other, _⟩
      · exact not_handsOut_keyword handed
      · exact absurd other (by decide)
  next => cases stands

end Parser

end Lalr
