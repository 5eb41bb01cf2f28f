import Lalr.Proofs.Lexer.Forward
import Lalr.Proofs.Lexer.Streaming
import Lalr.Proofs.Parser.Covering
import Lalr.Proofs.Parser.Resuming

/-!
# Texts behind layout

Where a text is only cut into tokens there is no parse that would stop at a bracket which is not
open, so layout gets to see every order of brackets that a text can have. It relies on it that no
more brackets are closed than have been opened. As long as this holds, layout either gets through
the tokens or refuses the first line that falls between two blocks, and whatever else goes wrong has
gone wrong in the source.
-/

namespace Lalr

namespace Layout

variable {rules : LayoutRules} {tokens : List Token} {failure? ending : Option Failure}

/-- Whether a token is the first to close a bracket that is not open, and layout gets that far. -/
structure Unopened (rules : LayoutRules) (before : List Token) (token : Token) : Prop where
  closes : ¬NeverShuts rules (before ++ [token])
  neverShuts : NeverShuts rules before
  fits : ∀ earlier line rest, before ++ [token] = earlier ++ line :: rest →
    BeginsLine rules earlier line → ¬Between (blocksAfter rules earlier) (lineWidth rules line)

/-- How layout ends over some tokens, after which their source may fail. If it gets through, the
margin is the outermost of the blocks that are open at the end, so that it is left when the others
have been closed. -/
inductive Ends (rules : LayoutRules) (tokens : List Token) (failure? : Option Failure) :
    Option Failure → Prop
  | through (neverShuts : NeverShuts rules tokens)
      (fits : ∀ earlier line rest, tokens = earlier ++ line :: rest →
        BeginsLine rules earlier line →
        ¬Between (blocksAfter rules earlier) (lineWidth rules line))
      (margin : HasMargin (blocksAfter rules tokens)) : Ends rules tokens failure? failure?
  | misfit {before after : List Token} {token : Token} (split : tokens = before ++ token :: after)
      (misfit : Misfit rules before token) :
      Ends rules tokens failure? (some (.dedent (lineWidth rules token)
        (((blocksAfter rules before).filter (· < lineWidth rules token)).headD 0)))
  | unopened {before after : List Token} {token : Token} (split : tokens = before ++ token :: after)
      (unopened : Unopened rules before token) :
      Ends rules tokens failure? (some (.fault .brokenPromise))

/-- Where every bracket that is closed has been opened, layout refuses no more than a line. -/
theorem Ends.of_neverShuts (ends : Ends rules tokens failure? ending)
    (neverShuts : NeverShuts rules tokens) :
    ending = failure? ∨ ∃ width expected, ending = some (.dedent width expected) := by
  cases ends with
  | through => exact .inl rfl
  | misfit => exact .inr ⟨_, _, rfl⟩
  | @unopened before after token split unopened =>
      refine absurd (fun front within => neverShuts front (within.trans ?_)) unopened.closes
      rw [split]
      exact ⟨after, by simp⟩

end Layout

namespace TokenStream

open Layout

section

variable {rules : LayoutRules}

/-- Layout ends over any tokens in one of three ways. -/
theorem handsOut_ends {tokens : List Token}
    (breaks : ∀ token ∈ tokens, token.kind = rules.lineBreak → '\n' ∈ token.text.toList)
    (failure? : Option Failure) :
    ∃ given ending, HandsOut rules {} (tokens, failure?) given ending ∧
      Ends rules tokens failure? ending := by
  have keeps : ∀ token ∈ tokens,
      ∀ {before given ready : List Token} {layout layout' : Layout},
      Knows rules before layout → layout.accept rules token = (ready, .ok layout') →
        Knows rules (before ++ [token]) layout' :=
    fun token within _ _ _ _ _ knows accepted => (knows.accepts (breaks token within) accepted).1
  rcases @handsOut_keeps rules (fun before _ => Knows rules before) (fun knows => knows.nested.2)
    failure? tokens [] [] {} .start keeps with
    ⟨given, layout, knows, hands⟩ |
    ⟨front, token, back, given, layout, ready, failure, rfl, knows, refused, hands⟩
  · exact ⟨_, _, hands, .through knows.neverShuts knows.fits (openBlocks_nested _).2⟩
  · rw [List.nil_append] at knows
    refine ⟨_, _, hands, ?_⟩
    rcases knows.refuses (breaks token (by simp)) refused with
      ⟨begins, between, rfl, _⟩ | ⟨fits, rfl, closes⟩
    · exact .misfit rfl ⟨begins, between, knows.neverShuts, knows.fits⟩
    · refine .unopened rfl ⟨closes, knows.neverShuts, ?_⟩
      intro earlier line rest same begins
      rcases split_concat same with ⟨rfl, rfl, _⟩ | ⟨rest, _, shorter⟩
      · exact fits begins
      · exact knows.fits earlier line rest shorter begins

end

variable {σ : Type} {source : σ → Work (Except Failure (Option Token) × σ)}
  {room : σ → Nat} {postLexer : PostLexer}

/-- Whether a source hands out some tokens one after another, and then fails where a failure is
given and comes to its end where none is. There is always room for more tokens than are left. -/
inductive Supplies (source : σ → Work (Except Failure (Option Token) × σ))
    (room : σ → Nat) :
    Workspace → σ → List Token × Option Failure → Prop
  | ended {before after : Workspace} {state next : σ} (here : 0 < room state)
    (there : 0 < room next)
      (asked : (source state).Gives before (.ok none, next) after)
      (again : source next = pure (.ok none, next)) : Supplies source room before state ([], none)
  | failed {before after : Workspace} {state next : σ} {failure : Failure} (here : 0 < room state)
      (asked : (source state).Gives before (.error failure, next) after) :
      Supplies source room before state ([], some failure)
  | token {before after : Workspace} {state next : σ} {token : Token} {tokens : List Token}
      {failure? : Option Failure} (here : tokens.length + 1 < room state)
      (asked : (source state).Gives before (.ok (some token), next) after)
      (others : Supplies source room after next (tokens, failure?)) :
      Supplies source room before state (token :: tokens, failure?)

theorem Supplies.length_lt {before : Workspace} {state : σ} {left : List Token × Option Failure}
    (supplies : Supplies source room before state left) : left.1.length < room state := by
  cases supplies with
  | ended here => exact here
  | failed here => exact here
  | token here => exact here

/-- A post-lexer makes the same of a source as of the list of its tokens. Induction on the number of
tokens that may be taken from it. -/
theorem Supplies.pullWithin (fuel : Nat) : ∀ {stream next : TokenStream}
    {before : Workspace} {state : σ} {left rest : List Token × Option Failure}
    {answer : Except Failure (Option Token)},
    Supplies source room before state left →
    pullWithin postLexer supply fuel stream left = pure (answer, next, rest) →
    ∃ met after, (pullWithin postLexer source fuel stream state).Gives before
      (answer, next, met) after ∧
      ∀ found, answer = .ok found → Supplies source room after met rest := by
  -- Where a token is ready, or the stream does not go on, the source is left alone.
  have settled (fuel : Nat) {stream next : TokenStream} {before : Workspace} {state : σ}
      {left rest : List Token × Option Failure} {answer : Except Failure (Option Token)}
      (stays : stream.ready = [] → stream.after = .goOn → fuel = 0)
      (supplies : Supplies source room before state left)
      (pulled : TokenStream.pullWithin postLexer supply fuel stream left = pure
        (answer, next, rest)) :
      ∃ met after, (TokenStream.pullWithin postLexer source fuel stream state).Gives before
          (answer, next, met) after ∧
        ∀ found, answer = .ok found → Supplies source room after met rest := by
    unfold TokenStream.pullWithin at pulled ⊢
    split at pulled
    next ready =>
      cases Work.eq_of_pure pulled
      exact ⟨_, _, Work.gives_pure.mpr ⟨rfl, rfl⟩, fun _ _ => supplies⟩
    next =>
      cases Work.eq_of_pure pulled
      exact ⟨_, _, Work.gives_pure.mpr ⟨rfl, rfl⟩, fun _ _ => supplies⟩
    next =>
      cases Work.eq_of_pure pulled
      exact ⟨_, _, Work.gives_pure.mpr ⟨rfl, rfl⟩, fun _ _ => supplies⟩
    next none going =>
      cases stays none going
      cases Work.eq_of_pure pulled
      exact ⟨_, _, Work.gives_pure.mpr ⟨rfl, rfl⟩, fun _ _ => supplies⟩
  induction fuel with
  | zero => exact fun supplies pulled => settled 0 (fun _ _ => rfl) supplies pulled
  | succ fuel ih =>
      intro stream next before state left rest answer supplies pulled
      by_cases goes : stream.ready = [] ∧ stream.after = .goOn
      · rcases stream with ⟨layout, ready, ending⟩
        rcases goes with ⟨rfl, rfl⟩
        rw [pullWithin_succ] at pulled ⊢
        cases supplies with
        | @ended _ after _ met _ there asked again =>
            have still : (source met).Gives after (.ok none, met) after := by
              rw [again]
              exact Work.gives_pure.mpr ⟨rfl, rfl⟩
            have closed : TokenStream.pullWithin postLexer supply fuel
                (close postLexer ⟨layout, [], .goOn⟩) ([], none) = pure (answer, next, rest) :=
                  pulled
            rcases ih (.ended there there still again) closed with ⟨met, last, pulls, rest⟩
            exact ⟨met, last, Work.gives_bind.mpr ⟨_, _, asked, pulls⟩, rest⟩
        | failed _ asked =>
            cases Work.eq_of_pure pulled
            exact ⟨_, _, Work.gives_bind.mpr ⟨_, _, asked,
              Work.gives_pure.mpr ⟨rfl, rfl⟩⟩, by simp⟩
        | @token _ _ _ _ token tokens failure? _ asked others =>
            have pushed : TokenStream.pullWithin postLexer supply fuel
                (push postLexer ⟨layout, [], .goOn⟩ token) (tokens, failure?) =
                  pure (answer, next, rest) := pulled
            rcases ih others pushed with ⟨met, last, pulls, rest⟩
            exact ⟨met, last, Work.gives_bind.mpr ⟨_, _, asked, pulls⟩, rest⟩
      · exact settled (fuel + 1) (fun none going => absurd ⟨none, going⟩ goes) supplies pulled

end TokenStream

namespace TokenSource

variable {rules : LayoutRules} {reader : Reader} {stream : TokenStream} {before : Workspace}
  {cursor : Cursor} {left : List Token × Option Failure} {given : List Token}
  {ending : Option Failure}

/-- How many tokens may be taken from a cursor on. -/
def room (cursor : Cursor) : Nat := cursor.text.size + 3 - cursor.counter.position

/-- What layout hands out of the tokens of a reader is what is drained behind it. Induction on the
tokens that are handed out. -/
theorem drain_of_handsOut (hands : TokenStream.HandsOut rules stream left given ending) :
    ∀ {before : Workspace} {cursor : Cursor},
      TokenStream.Supplies (reader.next none) room before cursor left →
      ∀ limit, given.length < limit → ∃ met after,
        (drain { reader, postLexer := some (.layout rules) } limit stream cursor).Gives before
          { tokens := given, failure := ending, cursor := met } after := by
  have pulls {stream next : TokenStream} {left rest : List Token × Option Failure}
      {answer : Except Failure (Option Token)} {before : Workspace} {cursor : Cursor}
      (pulled : ∀ fuel, left.1.length < fuel →
        TokenStream.pullWithin (.layout rules) TokenStream.supply fuel stream left =
          pure (answer, next, rest))
      (supplies : TokenStream.Supplies (reader.next none) room before cursor left) :
      ∃ met after,
        (pull { reader, postLexer := some (.layout rules) } none stream cursor).Gives before
          (answer, next, met) after ∧
        ∀ found, answer = .ok found →
          TokenStream.Supplies (reader.next none) room after met rest :=
    supplies.pullWithin _ (pulled _ supplies.length_lt)
  induction hands with
  | ended pulled =>
      intro before cursor supplies limit enough
      rcases Nat.exists_eq_succ_of_ne_zero (Nat.ne_zero_of_lt enough) with ⟨limit, rfl⟩
      rcases pulls pulled supplies with ⟨met, after, pulls, _⟩
      exact ⟨met, after, Work.gives_bind.mpr ⟨_, _, pulls,
        Work.gives_pure.mpr ⟨rfl, rfl⟩⟩⟩
  | failed pulled =>
      intro before cursor supplies limit enough
      rcases Nat.exists_eq_succ_of_ne_zero (Nat.ne_zero_of_lt enough) with ⟨limit, rfl⟩
      rcases pulls pulled supplies with ⟨met, after, pulls, _⟩
      exact ⟨met, after, Work.gives_bind.mpr ⟨_, _, pulls,
        Work.gives_pure.mpr ⟨rfl, rfl⟩⟩⟩
  | handed pulled _ ih =>
      intro before cursor supplies limit enough
      rcases Nat.exists_eq_succ_of_ne_zero (Nat.ne_zero_of_lt enough) with ⟨limit, rfl⟩
      rcases pulls pulled supplies with ⟨met, between, pulls, others⟩
      rcases ih (others _ rfl) limit (Nat.lt_of_succ_lt_succ enough) with ⟨last, after, drains⟩
      refine ⟨last, after, Work.gives_bind.mpr ⟨_, _, pulls, ?_⟩⟩
      exact Work.gives_bind.mpr ⟨_, _, drains, Work.gives_pure.mpr ⟨rfl, rfl⟩⟩

/-- What a reader supplies is what is drained from it alone. Induction on its tokens. -/
theorem drain_of_supplies
    (supplies : TokenStream.Supplies (reader.next none) room before cursor left)
    (stream : TokenStream) : ∀ limit, left.1.length < limit → ∃ met after,
      (drain { reader } limit stream cursor).Gives before
        { tokens := left.1, failure := left.2, cursor := met } after := by
  have pulls {answer : Except Failure (Option Token)} {before after : Workspace}
      {cursor met : Cursor}
      (asked : (reader.next none cursor).Gives before (answer, met) after) :
      (pull { reader } none stream cursor).Gives before (answer, stream, met) after :=
    Work.gives_bind.mpr ⟨_, _, asked, Work.gives_pure.mpr ⟨rfl, rfl⟩⟩
  induction supplies with
  | ended _ _ asked =>
      intro limit enough
      rcases Nat.exists_eq_succ_of_ne_zero (Nat.ne_zero_of_lt enough) with ⟨limit, rfl⟩
      exact ⟨_, _, Work.gives_bind.mpr ⟨_, _, pulls asked,
        Work.gives_pure.mpr ⟨rfl, rfl⟩⟩⟩
  | failed _ asked =>
      intro limit enough
      rcases Nat.exists_eq_succ_of_ne_zero (Nat.ne_zero_of_lt enough) with ⟨limit, rfl⟩
      exact ⟨_, _, Work.gives_bind.mpr ⟨_, _, pulls asked,
        Work.gives_pure.mpr ⟨rfl, rfl⟩⟩⟩
  | token _ asked _ ih =>
      intro limit enough
      rcases Nat.exists_eq_succ_of_ne_zero (Nat.ne_zero_of_lt enough) with ⟨limit, rfl⟩
      rcases ih limit (Nat.lt_of_succ_lt_succ enough) with ⟨met, after, drains⟩
      refine ⟨met, after, Work.gives_bind.mpr ⟨_, _, pulls asked, ?_⟩⟩
      exact Work.gives_bind.mpr ⟨_, _, drains, Work.gives_pure.mpr ⟨rfl, rfl⟩⟩

end TokenSource

namespace Lexer

variable {lexer : Lexer} {vocabulary : Vocabulary} {standing : Option Standing} {next : Cursor}
  {before after : Workspace} {answer : Except Failure (Option Token)}

/-- What is kept with each piece that is cut off holds where a search ends. Induction on its
bound. -/
theorem nextWithin_keeps (Keeps : Cursor → Prop)
    (cut : ∀ cursor stop name, Keeps cursor → Keeps (lexer.cut cursor stop name).2)
    (remember : ∀ cursor last, Keeps cursor → Keeps { cursor with last }) (fuel : Nat) :
    ∀ {before : Workspace} {cursor : Cursor},
      (lexer.nextWithin standing fuel cursor).Gives before (answer, next) after → Keeps cursor →
      Keeps next := by
  induction fuel with
  | zero =>
      intro before cursor gives keeps
      cases (Work.gives_pure.mp gives).1
      exact keeps
  | succ fuel ih =>
      intro before cursor gives keeps
      rw [nextWithin] at gives
      split at gives
      · cases (Work.gives_pure.mp gives).1
        exact keeps
      · rcases Work.gives_bind.mp gives with ⟨opened, between, _, gives⟩
        cases opened with
        | error failure =>
            cases (Work.gives_pure.mp gives).1
            exact keeps
        | ok vocabulary =>
            dsimp only at gives
            split at gives
            · cases (Work.gives_pure.mp gives).1
              exact keeps
            next stop name _ =>
              have keeps := cut cursor stop name keeps
              rcases Work.gives_bind.mp gives with ⟨called, between', _, gives⟩
              split at gives
              · cases (Work.gives_pure.mp gives).1
                exact keeps
              next value =>
                split at gives
                · exact ih gives keeps
                · split at gives
                  · cases (Work.gives_pure.mp gives).1
                    exact remember _ _ keeps
                  · rcases Work.gives_bind.mp gives with ⟨_, _, _, gives⟩
                    cases (Work.gives_pure.mp gives).1
                    exact keeps

/-- A search ends in the text. -/
theorem next_inside {cursor : Cursor}
    (gives : (lexer.next standing cursor).Gives before (answer, next) after)
    (inside : cursor.counter.position ≤ cursor.text.size) :
    next.counter.position ≤ next.text.size := by
  apply nextWithin_keeps (fun cursor => cursor.counter.position ≤ cursor.text.size) ?_ ?_ _
    gives inside
  · intro cursor stop name inside
    rw [position_cut]
    show _ ≤ cursor.text.size
    omega
  · exact fun _ _ inside => inside

/-- A lexer hands out no more tokens than there are characters left. Induction on what is left of
the text. -/
theorem exists_supplies (consuming : lexer.Consuming) (before : Workspace) (cursor : Cursor)
    (inside : cursor.counter.position ≤ cursor.text.size) :
    ∃ tokens failure?, tokens.length ≤ cursor.text.size - cursor.counter.position ∧
      TokenStream.Supplies ((Reader.basic lexer).next none) TokenSource.room before cursor
        (tokens, failure?) := by
  have roomy {cursor : Cursor} (inside : cursor.counter.position ≤ cursor.text.size) (count : Nat)
      (short : count ≤ cursor.text.size - cursor.counter.position) : count <
        TokenSource.room cursor := by
    rw [TokenSource.room]
    omega
  induction left : cursor.text.size - cursor.counter.position using Nat.strong_induction_on
    generalizing before cursor with
  | h left ih =>
      subst left
      have gives := Work.gives (lexer.next none cursor) before
      revert gives
      rcases (lexer.next none cursor).run before with ⟨⟨answer, met⟩, after⟩
      intro gives
      have inside' := next_inside gives inside
      rcases answer with failure | _ | token
      · exact ⟨[], some failure, Nat.zero_le _, .failed (roomy inside 0 (Nat.zero_le _)) gives⟩
      · refine ⟨[], none, Nat.zero_le _,
          .ended ?_ ?_ gives (next_of_atEnd (next_finds gives).2.2)⟩
        · exact roomy inside 0 (Nat.zero_le _)
        · exact roomy inside' 0 (Nat.zero_le _)
      · have text := (next_finds gives).1
        have forward := (nextWithin_forward consuming _ gives).2 token rfl
        rw [text] at inside'
        rcases ih _ (by rw [text]; omega) after met (by rw [text]; exact inside') rfl with
          ⟨tokens, failure?, short, supplies⟩
        rw [text] at short
        refine ⟨token :: tokens, failure?, ?_, .token (roomy inside _ ?_) gives supplies⟩
        · rw [List.length_cons]
          omega
        · omega

/-- A search that takes up text with each piece and calls nothing back fails only where nothing
matches. Induction on its bound. -/
theorem findWithin_fails (consuming : lexer.Consuming)
    (prepared : lexer.vocabulary.get.1 = .ok vocabulary) {failure : Failure} (fuel : Nat) :
    ∀ {cursor : Cursor}, cursor.text.size - cursor.counter.position ≤ fuel →
      lexer.findWithin vocabulary standing fuel cursor = (.error failure, next) →
      ∃ stuck, failure = .stuckText stuck := by
  induction fuel with
  | zero =>
      intro cursor enough went
      rw [findWithin, if_pos (by omega)] at went
      cases went
  | succ fuel ih =>
      intro cursor enough went
      rw [findWithin] at went
      split at went
      · cases went
      next going =>
        split at went
        · cases went
          exact ⟨_, rfl⟩
        next stop name found =>
          have forward := position_lt_cut consuming prepared (Nat.not_le.mp going) found
          split at went
          · have left : (lexer.cut cursor stop name).2.text.size -
                (lexer.cut cursor stop name).2.counter.position ≤ fuel := by
              show cursor.text.size - _ ≤ fuel
              omega
            exact ih left went
          · cases went

/-- A lexer that takes up text with each piece and calls nothing back fails only where nothing
matches, or because it cannot be prepared. -/
theorem next_fails (consuming : lexer.Consuming) (silent : lexer.callbacks = [])
    {cursor met : Cursor} {failure : Failure}
    (gives : (lexer.next standing cursor).Gives before (.error failure, met) after) :
    (∃ stuck, failure = .stuckText stuck) ∨ lexer.vocabulary.get.1 = .error failure := by
  cases prepared : lexer.vocabulary.get.1 with
  | ok vocabulary =>
      rcases next_eq_find silent prepared standing before cursor with ⟨_, finds, _⟩
      exact .inl (findWithin_fails consuming prepared _ (Nat.sub_le_sub_right (Nat.le_succ _) _)
        (finds.unique gives).1)
  | error fault =>
      by_cases ended : cursor.AtEnd
      · rw [next_of_atEnd ended] at gives
        cases (Work.gives_pure.mp gives).1
      · rcases next_of_unprepared prepared (Nat.not_le.mp ended) standing before with
          ⟨_, fails, _⟩
        cases (gives.unique fails).1
        exact .inr rfl

/-- A lexer that takes up text with each piece and calls nothing back comes to the end of its text,
or to a place where nothing matches, or cannot be prepared. -/
theorem supplies_fails (consuming : lexer.Consuming)
    (silent : lexer.callbacks = []) {cursor : Cursor} {left : List Token × Option Failure}
    {failure : Failure}
    (supplies : TokenStream.Supplies ((Reader.basic lexer).next none) TokenSource.room
      before cursor left)
    (fails : left.2 = some failure) :
    (∃ stuck, failure = .stuckText stuck) ∨ lexer.vocabulary.get.1 = .error failure := by
  induction supplies with
  | ended => cases fails
  | @failed before _ cursor met _ _ asked =>
      cases fails
      exact @next_fails lexer none _ _ consuming silent cursor met _ asked
  | token _ _ _ ih => exact ih fails

/-- A lexer that takes up text with each piece and calls nothing back comes to the end of its text,
or to a place where nothing matches. -/
theorem supplies_stuck (consuming : lexer.Consuming) (silent : lexer.callbacks = [])
    (prepared : lexer.vocabulary.get.1 = .ok vocabulary) {cursor : Cursor}
    {left : List Token × Option Failure} {failure : Failure}
    (supplies : TokenStream.Supplies ((Reader.basic lexer).next none) TokenSource.room
      before cursor left)
    (fails : left.2 = some failure) : ∃ stuck, failure = .stuckText stuck := by
  refine (supplies_fails consuming silent supplies fails).resolve_right fun unprepared => ?_
  rw [prepared] at unprepared
  cases unprepared

end Lexer

namespace Parser

open TokenStream Layout

/-- Layout gets through any tokens whose line breaks are line breaks, or refuses the first line that
falls between two blocks or the first bracket that is closed and not open, whichever comes first. So
if no beginning of the tokens closes more brackets than it opens, nothing else goes wrong than in
the source and with lines. The tokens of a text that are listed behind layout are those that it
hands out of what the lexer of all terminals supplies, if this lexer takes up text with each match:
they come to an end, and if it calls nothing back they end in a character that nothing matches, in a
line between two blocks, or at the end of the text, unless a bracket is closed that is not open. -/
theorem layout_ends (rules : LayoutRules) :
    (∀ tokens failure?,
      (∀ token ∈ tokens, token.kind = rules.lineBreak → '\n' ∈ token.text.toList) →
      ∃ given ending, HandsOut rules {} (tokens, failure?) given ending ∧
        Ends rules tokens failure? ending ∧
        (NeverShuts rules tokens →
          ending = failure? ∨ ∃ width expected, ending = some (.dedent width expected))) ∧
    ∀ (parser : Parser) (keepIgnored : Bool) (lexer : Lexer) (text : String) (before : Workspace),
      parser.source.postLexer = some (.layout rules) →
      lexer = (if keepIgnored then parser.wholeKeeping else parser.whole) → lexer.Consuming →
      ∃ tokens failure?, tokens.length ≤ text.toList.length ∧
        (∀ limit, tokens.length < limit → ∃ met after,
          (TokenSource.drain { reader := .basic lexer } limit {} (.ofText text)).Gives before
            { tokens, failure := failure?, cursor := met } after) ∧
        ((∀ token ∈ tokens, token.kind = rules.lineBreak → '\n' ∈ token.text.toList) →
          ∃ given ending, HandsOut rules {} (tokens, failure?) given ending ∧
            Ends rules tokens failure? ending ∧
            (∀ limit, given.length < limit → ∃ met after,
              (parser.tokens text keepIgnored limit).Gives before
                { tokens := given, failure := ending, cursor := met } after) ∧
            (NeverShuts rules tokens → lexer.callbacks = [] →
              (∃ vocabulary, lexer.vocabulary.get.1 = .ok vocabulary) →
              ∀ failure, ending = some failure →
                failure.kind? = some "UnexpectedCharacters" ∨
                  failure.kind? = some "DedentError")) := by
  constructor
  · intro tokens failure? breaks
    rcases handsOut_ends breaks failure? with ⟨given, ending, hands, ends⟩
    exact ⟨given, ending, hands, ends, ends.of_neverShuts⟩
  · rintro parser keepIgnored lexer text before connected rfl consuming
    rcases Lexer.exists_supplies consuming before (.ofText text) (Nat.zero_le _) with
      ⟨tokens, failure?, short, supplies⟩
    refine ⟨tokens, failure?, short, TokenSource.drain_of_supplies supplies {}, ?_⟩
    intro breaks
    rcases handsOut_ends breaks failure? with ⟨given, ending, hands, ends⟩
    refine ⟨given, ending, hands, ends, ?_, ?_⟩
    · intro limit enough
      simp only [Parser.tokens, connected]
      exact TokenSource.drain_of_handsOut hands supplies limit enough
    · rintro neverShuts silent ⟨vocabulary, prepared⟩ failure failed
      rcases ends.of_neverShuts neverShuts with same | ⟨width, expected, dedent⟩
      · rcases Lexer.supplies_stuck consuming silent prepared supplies
          (same.symm.trans failed) with
          ⟨stuck, rfl⟩
        exact .inl rfl
      · cases failed.symm.trans dedent
        exact .inr rfl

/-- What the lexer of a word and a block lists of a text. -/
theorem listed_block : ∃ drained after,
    (TokenSource.drain { reader := .basic blockParser.whole } 9 {} (.ofText "a\n b")).Gives
      {} drained after ∧
    (∀ token ∈ drained.tokens, token.kind = "_NEWLINE" → '\n' ∈ token.text.toList) ∧
    countClosing .standard drained.tokens = 0 :=
  ⟨_, _, Work.gives _ {}, by decide +kernel, by decide +kernel⟩

/-- A word and a block come to their end. -/
theorem layout_ends_block : ∃ given ending,
    (∀ limit, given.length < limit → ∃ met after,
      (blockParser.tokens "a\n b" false limit).Gives {}
      { tokens := given, failure := ending, cursor := met } after) ∧
    ∀ failure, ending = some failure →
      failure.kind? = some "UnexpectedCharacters" ∨ failure.kind? = some "DedentError" := by
  have consuming : blockParser.whole.Consuming := consuming_of_isConsuming (by decide +kernel)
  have prepared : ∃ vocabulary, blockParser.whole.vocabulary.get.1 = .ok vocabulary :=
    exists_of_isSome (by decide +kernel)
  rcases (layout_ends .standard).2 blockParser false _ "a\n b" {} rfl rfl consuming with
    ⟨tokens, failure?, short, lists, ends⟩
  rcases listed_block with ⟨drained, after, listed, breaks, closing⟩
  rcases lists 9 (Nat.lt_of_le_of_lt short (by decide)) with ⟨_, _, gives⟩
  rcases (gives.unique listed).1 with rfl
  rcases ends breaks with ⟨given, ending, _, _, drains, fails⟩
  refine ⟨given, ending, drains, fails ?_ rfl prepared⟩
  intro front within
  have fewer : countClosing .standard front ≤ countClosing .standard tokens :=
    within.sublist.countP_le
  exact Nat.le_trans fewer (closing ▸ Nat.zero_le _)

/-- A bracket that is closed but not open breaks what layout relies on. -/
theorem layout_breaks : ∃ tokens : List Token,
    (∀ token ∈ tokens, token.kind = "_NEWLINE" → '\n' ∈ token.text.toList) ∧
      HandsOut .standard {} (tokens, none) tokens (some (.fault .brokenPromise)) := by
  let close : Token := { kind := "RPAR", text := ")" }
  have pushed : push (.layout .standard) ⟨{}, [], .goOn⟩ close =
      ⟨{}, [close], .fail (.fault .brokenPromise)⟩ := by rfl
  have hands : HandsOut .standard ⟨{}, [close], .fail (.fault .brokenPromise)⟩ ([], none)
      ([close] ++ []) (some (.fault .brokenPromise)) := .of_ready (.failing _) [close]
  refine ⟨[close], by decide, .of_push ?_⟩
  rw [pushed]
  exact hands

end Parser

end Lalr
