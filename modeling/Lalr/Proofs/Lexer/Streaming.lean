import Lalr.Proofs.Lexer.Nesting

/-!
# Streams of nested blocks

A stream behind layout pulls tokens from its source one at a time and hands out what layout
makes of each before it pulls another. So what it hands out, and where it fails, can be told
from the tokens of the source: this module reads the nesting of blocks off a stream that is
pulled until it ends or fails.
-/

namespace Lalr

/-- Work that does nothing but answer gives one answer. -/
theorem Work.eq_of_pure {α : Type} {first second : α}
    (same : (pure first : Work α) = pure second) :
    first = second :=
  (gives_pure.mp (same ▸ gives_pure.mpr ⟨rfl, rfl⟩ :
    (pure first : Work α).Gives {} second {})).1

namespace TokenStream

/-- A source that hands out the tokens of a list, and then fails where a failure is given and ends
where none is. -/
def supply (left : List Token × Option Failure) :
    Work (Except Failure (Option Token) × List Token × Option Failure) :=
  match left with
  | (token :: rest, failure?) => return (.ok (some token), rest, failure?)
  | ([], some failure) => return (.error failure, [], none)
  | ([], none) => return (.ok none, [], none)

/-- What a stream behind layout hands out when tokens are pulled from it one at a time, and the
failure it ends with if it does not come to its end. -/
inductive HandsOut (rules : LayoutRules) :
    TokenStream → List Token × Option Failure → List Token → Option Failure → Prop
  | ended {stream next : TokenStream} {left rest : List Token × Option Failure}
      (pulled : ∀ fuel, left.1.length < fuel →
        pullWithin (.layout rules) supply fuel stream left = pure (.ok none, next, rest)) :
      HandsOut rules stream left [] none
  | failed {stream next : TokenStream} {left rest : List Token × Option Failure}
    {failure : Failure}
      (pulled : ∀ fuel, left.1.length < fuel →
        pullWithin (.layout rules) supply fuel stream left = pure (.error failure, next, rest)) :
      HandsOut rules stream left [] (some failure)
  | handed {stream next : TokenStream} {left rest : List Token × Option Failure} {token : Token}
      {given : List Token} {ending : Option Failure}
      (pulled : ∀ fuel, left.1.length < fuel →
        pullWithin (.layout rules) supply fuel stream left = pure (.ok (some token), next, rest))
      (others : HandsOut rules next rest given ending) :
      HandsOut rules stream left (token :: given) ending

namespace HandsOut

variable {rules : LayoutRules} {layout : Layout} {left : List Token × Option Failure}
  {given : List Token} {ending : Option Failure}

/-- What is pulled from a stream may be pulled from another one first. -/
theorem of_pull {stream stream' : TokenStream} {left' : List Token × Option Failure}
    (hands : HandsOut rules stream' left' given ending)
    (same : ∀ fuel, left.1.length < fuel → ∃ fuel', left'.1.length < fuel' ∧
      pullWithin (.layout rules) supply fuel stream left =
        pullWithin (.layout rules) supply fuel' stream' left') :
    HandsOut rules stream left given ending := by
  have pulls
      {outcome :
        Work (Except Failure (Option Token) × TokenStream × List Token × Option Failure)}
      (pulled : ∀ fuel, left'.1.length < fuel →
        pullWithin (.layout rules) supply fuel stream' left' = outcome) (fuel : Nat)
      (enough : left.1.length < fuel) : pullWithin (.layout rules) supply fuel stream
        left = outcome := by
    rcases same fuel enough with ⟨fuel', enough, same⟩
    exact same.trans (pulled fuel' enough)
  cases hands with
  | ended pulled => exact .ended (pulls pulled)
  | failed pulled => exact .failed (pulls pulled)
  | handed pulled others => exact .handed (pulls pulled) others

/-- The tokens that are ready are handed out first. -/
theorem of_ready {after : StreamEnd}
    (hands : HandsOut rules ⟨layout, [], after⟩ left given ending)
    (ready : List Token) : HandsOut rules ⟨layout, ready, after⟩ left
      (ready ++ given) ending := by
  induction ready with
  | nil => exact hands
  | cons token ready ih =>
      refine .handed (fun fuel _ => ?_) ih
      unfold pullWithin
      rfl

theorem stopped : HandsOut rules ⟨layout, [], .stop⟩ left [] none := by
  have pulled (fuel : Nat) (_ : left.1.length < fuel) :
      pullWithin (.layout rules) supply fuel ⟨layout, [], .stop⟩ left =
        pure (.ok none, ⟨layout, [], .stop⟩, left) := by
    unfold pullWithin
    rfl
  exact .ended pulled

theorem failing (failure : Failure) :
    HandsOut rules ⟨layout, [], .fail failure⟩ left [] (some failure) := by
  have pulled (fuel : Nat) (_ : left.1.length < fuel) :
      pullWithin (.layout rules) supply fuel ⟨layout, [], .fail failure⟩ left =
        pure (.error failure, ⟨layout, [], .stop⟩, left) := by
    unfold pullWithin
    rfl
  exact .failed pulled

/-- A token of the source goes into layout, and then what it calls for is handed out. -/
theorem of_push {token : Token} {tokens : List Token} {failure? : Option Failure}
    (hands : HandsOut rules (push (.layout rules) ⟨layout, [], .goOn⟩ token)
      (tokens, failure?) given
      ending) :
    HandsOut rules ⟨layout, [], .goOn⟩ (token :: tokens, failure?) given ending := by
  refine of_pull hands fun fuel enough => ?_
  rcases Nat.exists_eq_succ_of_ne_zero (Nat.ne_zero_of_lt enough) with ⟨fuel, rfl⟩
  exact ⟨fuel, Nat.lt_of_succ_lt_succ enough, pullWithin_succ fuel layout⟩

/-- Where the source fails, so does the stream. -/
theorem of_broken (failure : Failure) :
    HandsOut rules ⟨layout, [], .goOn⟩ ([], some failure) [] (some failure) := by
  have pulled (fuel : Nat) (enough : 0 < fuel) :
      pullWithin (.layout rules) supply fuel ⟨layout, [], .goOn⟩ ([], some failure) =
        pure (.error failure, ⟨layout, [], .stop⟩, [], none) := by
    rcases Nat.exists_eq_succ_of_ne_zero (Nat.ne_of_gt enough) with ⟨fuel, rfl⟩
    exact pullWithin_succ fuel layout
  exact .failed pulled

/-- Where the source ends and the outermost block is the margin, what the end calls for is handed
out. -/
theorem of_end (margin : Layout.HasMargin layout.widths) :
    HandsOut rules ⟨layout, [], .goOn⟩ ([], none) (layout.finish rules) none := by
  have closed := of_ready (stopped : HandsOut rules ⟨layout, [], .stop⟩ ([], none) [] none)
    (layout.finish rules)
  rw [List.append_nil] at closed
  -- A stream that has been closed takes no more tokens, however many it might take.
  have spare (fuel : Nat) (ready : List Token) :
      pullWithin (.layout rules) supply fuel ⟨layout, ready, .stop⟩ ([], none) =
        pullWithin (.layout rules) supply (fuel + 1) ⟨layout, ready, .stop⟩ ([], none) := by
    cases ready <;> (unfold pullWithin; rfl)
  refine of_pull closed fun fuel enough => ?_
  rcases Nat.exists_eq_succ_of_ne_zero (Nat.ne_zero_of_lt enough) with ⟨fuel, rfl⟩
  refine ⟨fuel + 1, Nat.succ_pos fuel, (pullWithin_succ fuel layout).trans ?_⟩
  show pullWithin (.layout rules) supply fuel (close (.layout rules) ⟨layout, [], .goOn⟩) _ = _
  rw [close_of_margin margin]
  exact spare fuel _

/-- A stream hands out the same tokens whenever it is pulled to its end. Induction on the pulls. -/
theorem unique {stream : TokenStream} (hands : HandsOut rules stream left given ending) :
    ∀ {given' : List Token} {ending' : Option Failure},
      HandsOut rules stream left given' ending' →
      given' = given ∧ ending' = ending := by
  have agree {stream : TokenStream} {left : List Token × Option Failure}
      {outcome outcome' : Except Failure (Option Token) × TokenStream × List
        Token × Option Failure}
      (pulled : ∀ fuel, left.1.length < fuel →
        pullWithin (.layout rules) supply fuel stream left = pure outcome)
      (pulled' : ∀ fuel, left.1.length < fuel →
        pullWithin (.layout rules) supply fuel stream left = pure
        outcome') : outcome' = outcome := by
    have enough := Nat.lt_succ_self left.1.length
    exact Work.eq_of_pure ((pulled' _ enough).symm.trans (pulled _ enough))
  induction hands with
  | ended pulled =>
      rintro given' ending' (pulled' | pulled' | ⟨pulled', -⟩) <;> cases agree pulled pulled'
      exact ⟨rfl, rfl⟩
  | failed pulled =>
      rintro given' ending' (pulled' | pulled' | ⟨pulled', -⟩) <;> cases agree pulled pulled'
      exact ⟨rfl, rfl⟩
  | handed pulled _ ih =>
      rintro given' ending' (pulled' | pulled' | ⟨pulled', others⟩) <;>
        cases agree pulled pulled'
      rcases ih others with ⟨rfl, rfl⟩
      exact ⟨rfl, rfl⟩

end HandsOut

open Layout

variable {rules : LayoutRules}

/-- What the end of the tokens calls for, if the source does not fail. -/
def ending (rules : LayoutRules) (layout : Layout) : Option Failure → List Token
  | none => layout.finish rules
  | some _ => []

/-- Either layout gets through the tokens of a source, or there is a first token at which something
is wrong. What is kept with each token that layout accepts holds up to there. Induction on the
tokens. -/
theorem handsOut_keeps {Holds : List Token → List Token → Layout → Prop}
    (margin : ∀ {before given : List Token} {layout : Layout}, Holds before given layout →
      HasMargin layout.widths) (failure? : Option Failure) (tokens : List Token) :
    ∀ {before given : List Token} {layout : Layout}, Holds before given layout →
    (∀ token ∈ tokens, ∀ {before given ready : List Token} {layout layout' : Layout},
      Holds before given layout → layout.accept rules token = (ready, .ok layout') →
        Holds (before ++ [token]) (given ++ ready) layout') →
    (∃ more layout', Holds (before ++ tokens) (given ++ more) layout' ∧
      HandsOut rules ⟨layout, [], .goOn⟩ (tokens, failure?)
        (more ++ ending rules layout' failure?)
        failure?) ∨
    ∃ front token back more layout' ready failure, tokens = front ++ token :: back ∧
      Holds (before ++ front) (given ++ more) layout' ∧
      layout'.accept rules token = (ready, .error failure) ∧
      HandsOut rules ⟨layout, [], .goOn⟩ (tokens, failure?) (more ++ ready) (some failure) := by
  induction tokens with
  | nil =>
      intro before given layout holds _
      refine .inl ⟨[], layout, by simpa using holds, ?_⟩
      cases failure? with
      | none => exact .of_end (margin holds)
      | some failure => exact .of_broken failure
  | cons token tokens ih =>
      intro before given layout holds keeps
      rw [List.forall_mem_cons] at keeps
      rcases accepted : layout.accept rules token with ⟨ready, failure | layout'⟩
      · have pushed : push (.layout rules) ⟨layout, [], .goOn⟩ token =
            ⟨layout, ready, .fail failure⟩ := by
          rw [push, PostLexer.accept, accepted]
        have hands : HandsOut rules ⟨layout, ready, .fail failure⟩
            (tokens, failure?) (ready ++ []) (some failure) := .of_ready (.failing failure) ready
        exact .inr ⟨[], token, tokens, [], layout, ready, failure,
          rfl, by simpa using holds, accepted, .of_push (by simpa [pushed] using hands)⟩
      · have pushed : push (.layout rules) ⟨layout, [], .goOn⟩ token =
            ⟨layout', ready, .goOn⟩ := by
          rw [push, PostLexer.accept, accepted]
        rcases ih (keeps.1 holds accepted) keeps.2 with
          ⟨more, last, holds, hands⟩ |
          ⟨front, other, back, more, last, ready', failure, rfl, holds, refused, hands⟩
        · refine .inl ⟨ready ++ more, last, by simpa using holds, .of_push ?_⟩
          rw [pushed, List.append_assoc]
          exact hands.of_ready ready
        · refine .inr ⟨token :: front, other, back, ready ++ more, last, ready', failure, rfl,
            by simpa using holds, refused, .of_push ?_⟩
          rw [pushed, List.append_assoc]
          exact hands.of_ready ready

theorem handsOut_cases (apart : rules.indent ≠ rules.dedent) (failure? : Option Failure)
    (tokens : List Token) {before given : List Token} {layout : Layout}
    (reached : Reached rules before given layout)
    (foreign : ∀ token ∈ tokens, Foreign rules token)
    (breaks : ∀ token ∈ tokens, token.kind = rules.lineBreak → '\n' ∈ token.text.toList) :
    (∃ more layout', Reached rules (before ++ tokens) (given ++ more) layout' ∧
      HandsOut rules ⟨layout, [], .goOn⟩ (tokens, failure?)
        (more ++ ending rules layout' failure?)
        failure?) ∨
    ∃ front token back more layout' ready failure, tokens = front ++ token :: back ∧
      Reached rules (before ++ front) (given ++ more) layout' ∧
      layout'.accept rules token = (ready, .error failure) ∧
      HandsOut rules ⟨layout, [], .goOn⟩ (tokens, failure?) (more ++ ready) (some failure) :=
  handsOut_keeps (fun reached => reached.nested.2) failure? tokens reached fun token
    within _ _ _ _ _ reached accepted =>
    reached.accepts apart (foreign token within) (breaks token within) accepted

/-- Layout brackets the blocks of any tokens that have no indents and dedents among them. Where it
gets through, the tokens that it is given are kept but for the line breaks between brackets, and
indents and dedents tell the blocks. It is a line between two blocks, and the first of them, that is
refused as such, and nothing is given after it. -/
theorem handsOut_nested (apart : rules.indent ≠ rules.dedent) {tokens : List Token}
    (foreign : ∀ token ∈ tokens, Foreign rules token)
    (breaks : ∀ token ∈ tokens, token.kind = rules.lineBreak → '\n' ∈ token.text.toList)
    (failure? : Option Failure) :
    ∃ given ending, HandsOut rules {} (tokens, failure?) given ending ∧
      (ending = none → Nested rules tokens given) ∧
      (∀ before token after, tokens = before ++ token :: after → Misfit rules before token →
        ending = some (.dedent (lineWidth rules token)
          (((blocksAfter rules before).filter (· < lineWidth rules token)).headD 0)) ∧
        withoutMarks rules given = keptAfter rules [] (before ++ [token])) ∧
      ∀ width expected, ending = some (.dedent width expected) → failure? = ending ∨
        ∃ before token after, tokens = before ++ token :: after ∧ Misfit rules before token ∧
          width = lineWidth rules token := by
  rcases handsOut_cases apart failure? tokens Reached.start foreign breaks with
    ⟨given, layout, reached, hands⟩ |
    ⟨front, token, back, given, layout, ready, failure, rfl, reached, refused, hands⟩
  · refine ⟨_, _, hands, fun ends => ?_, fun before token after same misfit => ?_,
      fun _ _ _ => .inl rfl⟩
    · rw [ends]
      exact reached.nested_finish apart
    · exact absurd misfit.between (reached.fits before token after same misfit.begins)
  · have within : token ∈ front ++ token :: back := by simp
    have refuses := reached.refuses (foreign token within) (breaks token within) refused
    refine ⟨_, _, hands, nofun, fun before other after same misfit => ?_,
      fun width expected ends => .inr ?_⟩
    · rcases split_compare same with ⟨rfl, rfl⟩ | ⟨rest, rfl⟩ | ⟨rest, rfl⟩
      · rcases refuses with ⟨-, -, rfl, kept⟩ | ⟨fits, -⟩
        · exact ⟨rfl, kept⟩
        · exact absurd misfit.between (fits misfit.begins)
      · rcases refuses with ⟨begins, between, -⟩ | ⟨-, -, shuts⟩
        · exact absurd between (misfit.first front token rest rfl begins)
        · refine absurd (fun start begins => misfit.neverShuts start (begins.trans ?_)) shuts
          exact ⟨rest, by simp⟩
      · exact absurd misfit.between (reached.fits before other rest rfl misfit.begins)
    · rcases refuses with ⟨begins, between, rfl, -⟩ | ⟨-, rfl, -⟩
      · cases ends
        exact ⟨front, token, back, rfl,
          ⟨begins, between, reached.neverShuts, reached.fits⟩, rfl⟩
      · cases ends

/-- A line of two columns is refused after one of four, and the word that follows is not given. -/
theorem handsOut_nested_between :
    let line (text : String) : Token := { kind := "_NEWLINE", text }
    let word : Token := { kind := "NAME", text := "x" }
    ∃ given ending, HandsOut .standard {} ([line "\n    ", word, line "\n  ", word], none)
      given ending ∧
      ending = some (.dedent 2 0) ∧
      withoutMarks .standard given = [line "\n    ", word, line "\n  "] := by
  intro line word
  have foreign : ∀ token ∈ [line "\n    ", word, line "\n  ", word],
      Foreign .standard token := by
    have kinds : ∀ token ∈ [line "\n    ", word, line "\n  ", word],
        token.kind ≠ "_INDENT" ∧ token.kind ≠ "_DEDENT" := by decide
    exact fun token within => ⟨(kinds token within).1, (kinds token within).2⟩
  have width : lineWidth .standard (line "\n  ") = 2 := by decide +kernel
  have blocks : blocksAfter .standard [line "\n    ", word] = [4, 0] := by decide +kernel
  have misfit : Misfit .standard [line "\n    ", word] (line "\n  ") := by
    refine ⟨⟨rfl, by decide⟩, ?_, fun front within => ?_,
      fun earlier other rest same begins => ?_⟩
    · rw [width, blocks]
      decide
    · have none : countClosing .standard [line "\n    ", word] = 0 := by decide
      have fewer : countClosing .standard front ≤ countClosing .standard [line "\n    ", word] :=
        within.sublist.countP_le
      omega
    · have first : earlier = [] ∧ other = line "\n    " := by
        rcases split_concat (show [line "\n    "] ++ [word] = _ from same) with
          ⟨-, rfl, -⟩ | ⟨rest, -, same⟩
        · exact absurd begins.kind (by decide)
        · rcases split_concat (show [] ++ [line "\n    "] = _ from same) with
            ⟨rfl, rfl, -⟩ | ⟨rest, -, none⟩
          · exact ⟨rfl, rfl⟩
          · simp at none
      rw [first.1, first.2]
      decide +kernel
  rcases handsOut_nested (by decide) foreign (by decide) none with
    ⟨given, ending, hands, -, misfits, -⟩
  rcases misfits [line "\n    ", word] (line "\n  ") [word] rfl misfit with ⟨ends, kept⟩
  rw [width, blocks] at ends
  exact ⟨given, ending, hands, ends, kept.trans (by decide +kernel)⟩

end TokenStream

end Lalr
