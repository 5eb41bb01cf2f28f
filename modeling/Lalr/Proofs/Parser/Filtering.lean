import Lalr.Proofs.Lexer.Calling
import Lalr.Proofs.Parser.Driving
import Lalr.Proofs.Parser.Sorted

/-!
# Ignoring is filtering, by the terminal that matched

A text is cut into the same pieces whether its lexer ignores some terminals or not, and where it
does, what it hands out are the tokens of the pieces of other terminals. Whether a piece is ignored
is a matter of the terminal that has matched. The token may be called otherwise, if it has come back
as a literal: then the tokens that are handed out are not those whose kinds are not ignored.
-/

namespace Lalr

/-- Where all images are different, what is chosen among some items and among their images comes to
the same only if the same items are chosen. -/
theorem map_filter_eq_iff {α β : Type} {f : α → β} {items : List α}
    (distinct : (items.map f).Nodup) {p : α → Bool} {q : β → Bool} :
    (items.filter p).map f = (items.map f).filter q ↔
      ∀ item ∈ items, p item = q (f item) := by
  rw [List.filter_map]
  constructor
  · intro same item member
    have chosen (p : α → Bool) : f item ∈ (items.filter p).map f ↔ p item = true := by
      constructor
      · intro among
        rcases List.mem_map.mp among with ⟨other, listed, equal⟩
        rcases List.mem_filter.mp listed with ⟨member', holds⟩
        rwa [← List.inj_on_of_nodup_map distinct member' member equal]
      · intro holds
        exact List.mem_map_of_mem (List.mem_filter.mpr ⟨member, holds⟩)
    rw [Bool.eq_iff_iff, ← chosen p, same, chosen]
    rfl
  · intro same
    rw [List.filter_congr same]
    rfl

/-- Whether two lists of tokens end in the same way: either nothing has gone wrong, or the same, and
where their lexers are stuck, they are stuck at the same character. They may be allowed other
terminals there and remember other tokens. -/
inductive EndsAlike : Option Failure → Option Failure → Prop
  | same (failure : Option Failure) : EndsAlike failure failure
  | stuck (stuck : StuckText) (allowed : List String) (history : Option (List Token)) :
      EndsAlike (some (.stuckText stuck)) (some (.stuckText { stuck with allowed, history }))

namespace Lexer

variable {lexer : Lexer} {vocabulary : Vocabulary} {text : Array Char} {counter last : LineCounter}
  {pieces : List Lexeme}

/-- What is ignored has no bearing on how a list ends. -/
theorem EndsAt.alike {number : Nat} {ignored : List String} {failure failure' : Option Failure}
    (ends : EndsAt { lexer with number, ignored } vocabulary text last failure)
    (ends' : lexer.EndsAt vocabulary text last failure') : EndsAlike failure failure' := by
  rcases ends with ⟨rfl, ended⟩ | ⟨⟨token, rfl⟩, here, _⟩
  · rcases ends' with ⟨rfl, _⟩ | ⟨_, here, _⟩
    · exact .same none
    · omega
  · rcases ends' with ⟨_, ended⟩ | ⟨⟨token', rfl⟩, _, _⟩
    · omega
    · exact .stuck _ (lexer.allowed vocabulary) (token'.map fun token => [token])

/-- What is made of an answer of a lexer, if `rest` lists what comes after the cursor. -/
def goOn (rest : Cursor → Drained) : Except Failure (Option Token) × Cursor → Drained
  | (.error failure, cursor) => { failure := some failure, cursor }
  | (.ok none, cursor) => { cursor }
  | (.ok (some token), cursor) => { rest cursor with tokens := token :: (rest cursor).tokens }

theorem goOn_complete_iff {rest : Cursor → Drained} {token : Token} {cursor : Cursor} :
    (goOn rest (.ok (some token), cursor)).Complete ↔ (rest cursor).Complete :=
  Iff.rfl

/-- What a lexer without callbacks lists from a cursor on, at most `limit` tokens. -/
def list (lexer : Lexer) (vocabulary : Vocabulary) : Nat → Cursor → Drained
  | 0, cursor => { cut := true, cursor }
  | limit + 1, cursor =>
    goOn (list lexer vocabulary limit) (lexer.find vocabulary none cursor)

/-- To drain a source that is a lexer without callbacks is to list what the lexer finds. -/
theorem drain_eq_list (silent : lexer.callbacks = [])
    (prepared : lexer.vocabulary.get.1 = .ok vocabulary) (limit : Nat) :
    ∀ (stream : TokenStream) (cursor : Cursor) (before : Workspace), ∃ after,
      (TokenSource.drain { reader := .basic lexer } limit stream cursor).Gives before
        (lexer.list vocabulary limit cursor) after := by
  induction limit with
  | zero => exact fun _ _ before => ⟨before, Work.gives_pure.mpr ⟨rfl, rfl⟩⟩
  | succ limit ih =>
      intro stream cursor before
      rcases next_eq_find silent prepared none before cursor with ⟨between, finds, _⟩
      rw [list]
      revert finds
      rcases lexer.find vocabulary none cursor with ⟨answer, met⟩
      intro finds
      have pulled : (TokenSource.pull { reader := .basic lexer } none stream cursor).Gives before
          (answer, stream, met) between :=
        Work.gives_bind.mpr ⟨_, _, finds, Work.gives_pure.mpr ⟨rfl, rfl⟩⟩
      rcases answer with failure | _ | token
      · exact ⟨_, Work.gives_bind.mpr ⟨_, _, pulled, Work.gives_pure.mpr ⟨rfl, rfl⟩⟩⟩
      · exact ⟨_, Work.gives_bind.mpr ⟨_, _, pulled, Work.gives_pure.mpr ⟨rfl, rfl⟩⟩⟩
      · rcases ih stream met between with ⟨after, drains⟩
        refine ⟨after, Work.gives_bind.mpr ⟨_, _, pulled, ?_⟩⟩
        exact Work.gives_bind.mpr ⟨_, _, drains, Work.gives_pure.mpr ⟨rfl, rfl⟩⟩

/-- Where the scanner stops after some pieces, the list comes to an end as well. Induction on the
pieces. -/
theorem list_of_cuts (cuts : lexer.Cuts vocabulary text counter pieces last)
    (stops : Stops vocabulary text last) : ∃ limit, ∀ token fuel,
      text.size - counter.position < fuel →
      (goOn (lexer.list vocabulary limit)
        (lexer.findWithin vocabulary none fuel ⟨text, counter, token⟩)).Complete := by
  induction cuts with
  | nothing counter =>
      refine ⟨0, ?_⟩
      intro token fuel enough
      rcases Nat.exists_eq_succ_of_ne_zero (show fuel ≠ 0 by omega) with ⟨fuel, rfl⟩
      rw [findWithin]
      dsimp only
      split
      next => exact ⟨rfl, by simp [goOn]⟩
      next going =>
        rcases stops with ended | none
        · exact absurd ended going
        · rw [none]
          refine ⟨rfl, ?_⟩
          intro same
          cases same
  | @piece counter last stop name pieces here found cuts ih =>
      rcases cuts.position_lt here found stops with ⟨forward, inside⟩
      rcases ih stops with ⟨limit, complete⟩
      by_cases ignored : lexer.ignored.contains name = true
      · refine ⟨limit, ?_⟩
        intro token fuel enough
        rcases Nat.exists_eq_succ_of_ne_zero (show fuel ≠ 0 by omega) with ⟨fuel, rfl⟩
        rw [findWithin]
        dsimp only
        rw [if_neg (Nat.not_le.mpr here), found]
        dsimp only
        rw [if_pos ignored]
        exact complete token fuel (by omega)
      · refine ⟨limit + 1, ?_⟩
        intro token fuel enough
        rcases Nat.exists_eq_succ_of_ne_zero (show fuel ≠ 0 by omega) with ⟨fuel, rfl⟩
        rw [findWithin]
        dsimp only
        rw [if_neg (Nat.not_le.mpr here), found]
        dsimp only
        rw [if_neg ignored]
        rw [goOn_complete_iff, list, find]
        refine complete (some (lexer.found vocabulary ⟨text, counter, token⟩ stop name).1) _ ?_
        show _ < text.size + 1 - (lexer.cut ⟨text, counter, none⟩ stop name).2.counter.position
        omega

/-- The pieces of a text are the same whatever is ignored. -/
theorem Cuts.ignoring {number : Nat} {ignored : List String} {counter : LineCounter}
    (cuts : Cuts { lexer with number, ignored } vocabulary text counter pieces last) :
    lexer.Cuts vocabulary text counter pieces last := by
  induction cuts with
  | nothing => exact .nothing _
  | piece here found _ ih => exact .piece here found ih

theorem Cuts.of_ignoring {counter : LineCounter}
    (cuts : lexer.Cuts vocabulary text counter pieces last) (number : Nat) (ignored : List String) :
    Cuts { lexer with number, ignored } vocabulary text counter pieces last := by
  induction cuts with
  | nothing => exact .nothing _
  | piece here found _ ih => exact .piece here found ih

/-- Whether some tokens, with what went wrong if something did, are all that a lexer lists of a
text. -/
def Lists (lexer : Lexer) (text : String) (drained : Drained) : Prop :=
  ∃ limit before after,
    (TokenSource.drain { reader := .basic lexer } limit {} (.ofText text)).Gives
      before drained after ∧
      drained.Complete

/-- A lexer without callbacks hands out the tokens of the pieces as they are. -/
theorem tokens_of_becomes {tokens : List Token} (silent : lexer.callbacks = [])
    (becomes : List.Forall₂ lexer.Becomes pieces tokens) : tokens = pieces.map Lexeme.token := by
  induction becomes with
  | nil => rfl
  | @cons piece token _ _ becomes _ ih =>
      have unheard : ¬lexer.Hears piece := by
        rintro ⟨_, among⟩
        rw [silent] at among
        cases among
      rw [List.map_cons, ← becomes.2 unheard, ← ih]

/-- What is listed of a text comes from its pieces up to where the scanner stops. -/
theorem Lists.exists_pieces {text : String} {drained : Drained} (lists : lexer.Lists text drained)
    (silent : lexer.callbacks = []) (prepared : lexer.vocabulary.get.1 = .ok vocabulary) :
    ∃ pieces last, lexer.Cuts vocabulary text.toList.toArray {} pieces last ∧
      lexer.EndsAt vocabulary text.toList.toArray last drained.failure ∧
      drained.tokens = (pieces.filter fun piece => piece.name ∉ lexer.ignored).map
        Lexeme.token := by
  rcases lists with ⟨limit, before, after, gives, complete⟩
  have logs : lexer.Logs := by
    intro kind callback known
    rw [silent] at known
    cases known
  rcases drain_pieces logs prepared limit gives with ⟨pieces, last, cuts, _, becomes, ends⟩
  exact ⟨pieces, last, cuts, ends complete, tokens_of_becomes silent becomes⟩

/-- A text that is cut into pieces up to where the scanner stops can be listed. -/
theorem Cuts.exists_lists {text : String}
    (cuts : lexer.Cuts vocabulary text.toList.toArray {} pieces last)
    (stops : Stops vocabulary text.toList.toArray last) (silent : lexer.callbacks = [])
    (prepared : lexer.vocabulary.get.1 = .ok vocabulary) :
    ∃ drained, lexer.Lists text drained := by
  rcases list_of_cuts cuts stops with ⟨limit, complete⟩
  rcases drain_eq_list silent prepared (limit + 1) {} (.ofText text) {} with ⟨after, gives⟩
  refine ⟨_, limit + 1, {}, after, gives, ?_⟩
  exact complete none (text.toList.toArray.size + 1 - 0) (by simp only [Nat.sub_zero]; omega)

/-- If the vocabulary of a lexer cannot be prepared, all lists are empty and end in that failure,
unless the text is empty. -/
theorem lists_unprepared {failure : Failure} (failed : lexer.vocabulary.get.1 = .error failure)
    (text : String) :
    ((∃ drained, lexer.Lists text drained) ↔
      (if text.toList.toArray.size = 0 then none else some failure) ≠
        some (.fault .brokenPromise)) ∧
    ∀ drained, lexer.Lists text drained → drained.tokens = [] ∧
      drained.failure = if text.toList.toArray.size = 0 then none else some failure := by
  have all : ∀ drained, lexer.Lists text drained → (drained.tokens = [] ∧
      drained.failure = if text.toList.toArray.size = 0 then none else some failure) ∧
        drained.Complete := by
    rintro drained ⟨limit, before, after, gives, complete⟩
    rcases drain_unprepared failed gives with ⟨none, _, whole, fails⟩
    exact ⟨⟨none, fails (whole.mp complete.1)⟩, complete⟩
  refine ⟨⟨?_, ?_⟩, fun drained listed => (all drained listed).1⟩
  · rintro ⟨drained, listed⟩
    rcases all drained listed with ⟨⟨_, failed⟩, complete⟩
    rw [← failed]
    exact complete.2
  · intro fine
    have gives := Work.gives (TokenSource.drain { reader := .basic lexer } 1 {} (.ofText text)) {}
    rcases drain_unprepared failed gives with ⟨_, _, whole, fails⟩
    exact ⟨_, 1, {}, _, gives,
      whole.mpr Nat.one_ne_zero, by rw [fails Nat.one_ne_zero]; exact fine⟩

end Lexer

namespace Parser

variable {terminals : List Terminal} {rules : List Rule} {table : Table State}
  {ignored : List Data} {options : Options} {before after : Workspace} {parser : Parser}

/-- The lexers that a parser without callbacks cuts texts with where no parse is going on. -/
theorem wholes_of_make
    (made : (make terminals rules table ignored options).Yields before parser after)
    (silent : options.callbacks = .ok []) :
    ∃ number number' flags ordered, flagsFor terminals options = .ok flags ∧
      ordered.Perm terminals ∧
      parser.whole = .ofOrdered number (settings terminals ignored [] flags) ordered ∧
      parser.wholeKeeping = { parser.whole with number := number', ignored := [] } ∧
      parser.whole.ignored = parser.ignored := by
  rcases assemble_of_make made with ⟨count, assembled, _⟩
  simp only [assemble, bind_eq_ok, silent] at assembled
  rcases assembled with
    ⟨_, _, _, _, _, _, callbacks, called, flags, flagged, ⟨source, _⟩, _, whole,
    whole_made, wholeKeeping, keeping_made, assembled⟩
  cases assembled
  cases called
  rcases Lexer.make_eq_ok.mp whole_made with ⟨_, ordered, went, rfl⟩
  rcases Lexer.make_eq_ok.mp keeping_made with ⟨_, ordered', went', rfl⟩
  cases went.symm.trans went'
  exact ⟨_, _, flags, ordered, flagged, Lexer.perm_of_inOrder went, rfl, rfl, rfl⟩

/-- Whether some tokens, with what went wrong if something did, are all that is listed of a text. -/
def Lists (parser : Parser) (text : String) (keepIgnored : Bool) (drained : Drained) : Prop :=
  ∃ limit before after, (parser.tokens text keepIgnored limit).Gives before drained after ∧
    drained.Complete

theorem lists_iff (plain : parser.source.postLexer = none) {text : String} {keepIgnored : Bool}
    {drained : Drained} : parser.Lists text keepIgnored drained ↔
      (if keepIgnored then parser.wholeKeeping else parser.whole).Lists text drained := by
  unfold Lists tokens
  dsimp only
  rw [plain]
  exact Iff.rfl

/-- Ignoring is filtering by the terminals that have matched. Where there are no callbacks and no
post-lexer, the tokens of a text can be listed without those that are ignored exactly if they can be
listed with them. Both come from the same pieces and end in the same way, and the tokens that are
left are those of the pieces whose terminals are not ignored. These are the tokens whose kinds are
not ignored if and only if no piece is called otherwise on the other side of what is ignored, and so
in any text if no expression absorbs a literal on the other side. -/
theorem ignoring_filters
    (made : (make terminals rules table ignored options).Yields before parser after)
    (plain : options.postLexer = .ok none) (silent : options.callbacks = .ok []) (text : String) :
    ((∃ all, parser.Lists text true all) ↔ ∃ kept, parser.Lists text false kept) ∧
    ∀ all kept, parser.Lists text true all → parser.Lists text false kept →
      EndsAlike all.failure kept.failure ∧
      ∃ pieces : List Lexeme,
        (∀ vocabulary, parser.whole.vocabulary.get.1 = .ok vocabulary → ∃ last,
          parser.whole.Cuts vocabulary text.toList.toArray {} pieces last ∧
            Lexer.Stops vocabulary text.toList.toArray last) ∧
        all.tokens = pieces.map Lexeme.token ∧
        kept.tokens = (pieces.filter fun piece => piece.name ∉ parser.ignored).map
          Lexeme.token ∧
        (kept.tokens = all.tokens.filter (fun token => token.kind ∉ parser.ignored) ↔
          ∀ piece ∈ pieces,
            (piece.name ∈ parser.ignored ↔ piece.token.kind ∈ parser.ignored)) ∧
        ((∀ terminal ∈ terminals, Unicode.isIdentifier terminal.name.toList = true) →
          (∀ flags, flagsFor terminals options = .ok flags →
            ∀ expression ∈ terminals, ∀ literal ∈ terminals,
              literal.pattern.kind = .literal →
              Vocabulary.absorbs flags expression literal = true →
                (expression.name ∈ parser.ignored ↔ literal.name ∈ parser.ignored)) →
          kept.tokens = all.tokens.filter fun token => token.kind ∉ parser.ignored) := by
  rcases wholes_of_make made silent with
    ⟨number, number', flags, ordered, flagged, permuted, whole, keeping, ignores⟩
  have plain' := postLexer_of_make made plain
  have silent' : parser.whole.callbacks = [] := by rw [whole]; rfl
  have keepsSilent : parser.wholeKeeping.callbacks = [] := by rw [keeping]; exact silent'
  have unkept (drained : Drained) :
      parser.Lists text true drained ↔ parser.wholeKeeping.Lists text drained := lists_iff plain'
  have left (drained : Drained) :
      parser.Lists text false drained ↔ parser.whole.Lists text drained := lists_iff plain'
  simp only [unkept, left]
  cases prepared : parser.whole.vocabulary.get.1 with
  | error failure =>
      have unprepared : parser.wholeKeeping.vocabulary.get.1 = .error failure := by
        rw [keeping]
        exact prepared
      rcases Lexer.lists_unprepared unprepared text with ⟨some_, all_⟩
      rcases Lexer.lists_unprepared prepared text with ⟨some', kept_⟩
      refine ⟨some_.trans some'.symm, ?_⟩
      intro all kept listed listed'
      rcases all_ all listed with ⟨none, failed⟩
      rcases kept_ kept listed' with ⟨none', failed'⟩
      rw [failed, failed', none, none']
      refine ⟨.same _, [], ?_, rfl, rfl, by simp, by simp⟩
      rintro _ ⟨⟩
  | ok vocabulary =>
      have prepared' : parser.wholeKeeping.vocabulary.get.1 = .ok vocabulary := by
        rw [keeping]
        exact prepared
      refine ⟨⟨?_, ?_⟩, ?_⟩
      · rintro ⟨all, listed⟩
        rcases listed.exists_pieces keepsSilent prepared' with ⟨pieces, last, cuts, ends, _⟩
        rw [keeping] at cuts
        exact cuts.ignoring.exists_lists ends.stops silent' prepared
      · rintro ⟨kept, listed⟩
        rcases listed.exists_pieces silent' prepared with ⟨pieces, last, cuts, ends, _⟩
        have cuts' := cuts.of_ignoring number' []
        rw [← keeping] at cuts'
        exact cuts'.exists_lists ends.stops keepsSilent prepared'
      · intro all kept listed listed'
        rcases listed.exists_pieces keepsSilent prepared' with
          ⟨pieces, last, cuts, ends, tokens⟩
        rcases listed'.exists_pieces silent' prepared with
          ⟨pieces', last', cuts', ends', tokens'⟩
        have nothing : parser.wholeKeeping.ignored = [] := by rw [keeping]
        rw [keeping] at cuts
        rcases cuts.ignoring.unique ends.stops cuts' ends'.stops with ⟨rfl, rfl⟩
        rw [ignores] at tokens'
        simp only [nothing, List.not_mem_nil, not_false_eq_true, decide_true, List.filter_true]
          at tokens
        have crossing : kept.tokens = all.tokens.filter
            (fun token => token.kind ∉ parser.ignored) ↔
            ∀ piece ∈ pieces,
              (piece.name ∈ parser.ignored ↔ piece.token.kind ∈ parser.ignored) := by
          rw [tokens, tokens', map_filter_eq_iff (cuts'.nodup ends'.stops).2]
          simp
        refine ⟨?_, pieces, ?_, tokens, tokens', crossing, ?_⟩
        · rw [keeping] at ends
          exact ends.alike ends'
        · rintro _ ⟨⟩
          exact ⟨last, cuts', ends'.stops⟩
        · intro identifiers apart
          rw [crossing]
          have yields : (Vocabulary.prepare ordered flags).Yields vocabulary := by
            rw [whole] at prepared
            exact ⟨[], _, Prod.ext prepared rfl⟩
          have identifiers' : ∀ terminal ∈ ordered,
              Unicode.isIdentifier terminal.name.toList = true := by
            intro terminal member
            exact identifiers terminal (permuted.subset member)
          intro piece member
          rw [cuts'.kind piece member]
          by_cases turned : vocabulary.kindOf piece.name piece.token.text = piece.name
          · rw [turned]
          · rcases Vocabulary.exists_of_kindOf yields identifiers' turned with
              ⟨expression, among, same, literal, among', isLiteral, absorbs, _, named⟩
            rw [named, ← same]
            exact apart flags flagged expression (permuted.subset among) literal
              (permuted.subset among') isLiteral absorbs

open Lexer (remarks remarks_inOrder)

def remarkRules : List Rule := [{ origin := "start", expansion := [.terminal "WORD" false] }]

def remarkTable : Table State where
  rows := [
    (.number 0, [("WORD", .shift (.number 1)), ("start", .shift (.number 2))]),
    (.number 1, [("$END", .reduce remarkRules[0])]),
    (.number 2, [])]
  starts := [("start", .number 0)]
  ends := [("start", .number 2)]

/-- The parser for remarks that ignores one kind of them. -/
def remarkParser (ignored : String) : Parser :=
  basicOf remarks remarkRules remarkTable [.text ignored]

/-- What the parser lists of a text. -/
def listing (ignored text : String) (keepIgnored : Bool) : Drained :=
  (StateT.run (m := Id) ((remarkParser ignored).tokens text keepIgnored 4) {}).1

theorem listing_lists {ignored text : String} {keepIgnored : Bool}
    (whole : (listing ignored text keepIgnored).cut = false)
    (fine : (listing ignored text keepIgnored).failure.isNone = true) :
    (remarkParser ignored).Lists text keepIgnored (listing ignored text keepIgnored) := by
  refine ⟨4, {}, _, Work.gives _ {}, whole, ?_⟩
  show (listing ignored text keepIgnored).failure ≠ _
  rw [Option.isNone_iff_eq_none.mp fine]
  simp

/-- Whether a parser for remarks can be made, and lists a text completely either way. -/
def lists? (ignored text : String) : Bool :=
  isSound remarks remarkRules remarkTable [.text ignored] &&
    [true, false].all fun keepIgnored =>
      !(listing ignored text keepIgnored).cut && (listing ignored text keepIgnored).failure.isNone

theorem lists_of_lists? {ignored text : String} (listed : lists? ignored text = true) :
    (∃ made,
      (make remarks remarkRules remarkTable [.text ignored] { contextual := false }).Yields {}
      (remarkParser ignored) made) ∧
    (remarkParser ignored).Lists text true (listing ignored text true) ∧
    (remarkParser ignored).Lists text false (listing ignored text false) := by
  simp only [lists?, Bool.and_eq_true, List.all_cons, List.all_nil, Bool.not_eq_true'] at listed
  rcases listed with ⟨sound, ⟨whole, fine⟩, ⟨whole', fine'⟩, _⟩
  exact ⟨basicOf_made sound remarks_inOrder, listing_lists whole fine,
    listing_lists whole' fine'⟩

/-- What there is to see of two parsers: where blanks are ignored no expression absorbs a literal on
the other side, and where the keyword is ignored it is listed all the same. -/
theorem listings :
    lists? "WS" "if a" = true ∧
    (listing "WS" "if a" false).tokens.map Token.kind = ["IF", "WORD"] ∧
    (∀ expression ∈ remarks, ∀ literal ∈ remarks, literal.pattern.kind = .literal →
      Vocabulary.absorbs {} expression literal = true →
        (expression.name ∈ ["WS"] ↔ literal.name ∈ ["WS"])) ∧
    lists? "IF" "if" = true ∧ (listing "IF" "if" false).tokens.map Token.kind = ["IF"] := by
  decide +kernel

theorem ignoring_filters_blanks : ∃ parser made all kept,
    (make remarks remarkRules remarkTable [.text "WS"] { contextual := false }).Yields
      {} parser made ∧
    parser.Lists "if a" true all ∧ parser.Lists "if a" false kept ∧
    kept.tokens.map Token.kind = ["IF", "WORD"] ∧
    kept.tokens = all.tokens.filter fun token => token.kind ∉ ["WS"] := by
  rcases listings with ⟨listed, kinds, apart, _⟩
  rcases lists_of_lists? listed with ⟨⟨made, make⟩, all, kept⟩
  rcases ignoring_filters make rfl rfl "if a" with ⟨_, each⟩
  rcases each _ _ all kept with ⟨_, pieces, _, _, _, _, filters⟩
  refine ⟨_, made, _, _, make, all, kept, kinds, filters (by decide) ?_⟩
  rintro flags ⟨⟩
  exact apart

/-- A keyword that is ignored is handed out all the same: the word that matches it is not
ignored. -/
theorem ignored_is_listed : ∃ parser made all kept,
    (make remarks remarkRules remarkTable [.text "IF"] { contextual := false }).Yields
      {} parser made ∧
    parser.ignored = ["IF"] ∧ parser.Lists "if" true all ∧ parser.Lists "if" false kept ∧
    (∃ token ∈ kept.tokens, token.kind ∈ parser.ignored) ∧
    kept.tokens ≠ all.tokens.filter fun token => token.kind ∉ parser.ignored := by
  rcases listings with ⟨_, _, _, listed, kinds⟩
  rcases lists_of_lists? listed with ⟨⟨made, make⟩, all, kept⟩
  have handed : ∃ token ∈ (listing "IF" "if" false).tokens, token.kind ∈ ["IF"] := by
    rcases List.mem_map.mp (kinds ▸ List.mem_singleton_self "IF") with ⟨token, member, kind⟩
    exact ⟨token, member, List.mem_singleton.mpr kind⟩
  refine ⟨_, made, _, _, make, rfl, all, kept, handed, ?_⟩
  intro same
  rcases handed with ⟨token, member, kind⟩
  rw [same] at member
  have unlisted := (List.mem_filter.mp member).2
  rw [decide_eq_true_eq] at unlisted
  exact unlisted kind

end Parser

end Lalr
