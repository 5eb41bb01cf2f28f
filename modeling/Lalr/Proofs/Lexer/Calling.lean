import Lalr.Proofs.Lexer.Pieces
import Lalr.Proofs.Lexer.Retyping

/-!
# Callbacks hear of the matches of their terminals

A callback is registered under a kind of token. It is looked up by the terminal that has matched,
and called unless the token has come back as a literal. So it is called once for each token that has
kept the name of its terminal, whether the token is ignored or not, and no other callback is. A
token that has come back as a literal is heard of by nobody, not even by the callback of the
literal.
-/

namespace Lalr

/-- What is taken down when the callback for a kind is called on a token. -/
def callNote (kind : String) (token : Token) : Data :=
  .list [.text kind, .text token.text, .int (token.place.startPos.getD 0)]

/-- A callback that takes down the kind that it is registered under, and the token, and goes on as
another one. -/
def logging (kind : String) (callback : TokenHandler) : TokenHandler := fun token => do
  Work.note (callNote kind token)
  callback token

/-- Whether a callback hands each token back as one of the same kind, and leaves no notes of its
own. -/
def TokenHandler.Keeps (callback : TokenHandler) : Prop :=
  ∀ token before, ∃ token' after, (callback token).Yields before (.token token') after ∧
    token'.kind = token.kind ∧ after.notes = before.notes

namespace Lexer

variable {lexer : Lexer} {vocabulary : Vocabulary} {standing : Option Standing}
  {cursor met : Cursor} {before after : Workspace} {answer : Except Failure (Option Token)}

/-- Whether each callback of a lexer takes its calls down and hands tokens of the same kind back. -/
def Logs (lexer : Lexer) : Prop :=
  ∀ kind callback, assoc? lexer.callbacks kind = some callback →
    ∀ token before, ∃ token' after,
    (callback token).Yields before (.token token') after ∧ token'.kind = token.kind ∧
      after.notes = before.notes ++ [callNote kind token]

/-- Callbacks that take their calls down log. -/
theorem logs_of_keeps {callbacks : List (String × TokenHandler)}
    (logged : lexer.callbacks = callbacks.map fun entry => (entry.1, logging entry.1 entry.2))
    (keeps : ∀ entry ∈ callbacks, TokenHandler.Keeps entry.2) : lexer.Logs := by
  intro kind callback known token before
  have among := mem_of_assoc? known
  rw [logged] at among
  rcases List.mem_map.mp among with ⟨entry, member, same⟩
  cases same
  rcases keeps entry member
    token { before with notes := before.notes ++ [callNote entry.1 token] } with
    ⟨token', after, yields, kind, notes⟩
  refine ⟨token', after, ?_, kind, notes⟩
  exact Run.yields_bind.mpr ⟨⟨⟩, _, Run.yields_modify.mpr rfl, yields⟩

/-- Whether the callback of the terminal of a piece hears of its token: there is one, and the token
has not come back as a literal. -/
def Hears (lexer : Lexer) (piece : Lexeme) : Prop :=
  piece.token.kind = piece.name ∧ piece.name ∈ lexer.callbacks.map (·.1)

instance (lexer : Lexer) (piece : Lexeme) : Decidable (lexer.Hears piece) :=
  inferInstanceAs (Decidable (_ ∧ _))

/-- What is taken down about some pieces. -/
def calls (lexer : Lexer) (pieces : List Lexeme) : List Data :=
  (pieces.filter fun piece => lexer.Hears piece).map fun piece => callNote piece.name piece.token

theorem calls_append (lexer : Lexer) (pieces pieces' : List Lexeme) :
    lexer.calls (pieces ++ pieces') = lexer.calls pieces ++ lexer.calls pieces' := by
  simp [calls]

/-- Whether a token is what becomes of a piece: it has the kind of the token of the piece, and is
that token if nobody has heard of it. -/
def Becomes (lexer : Lexer) (piece : Lexeme) (token : Token) : Prop :=
  token.kind = piece.token.kind ∧ (¬lexer.Hears piece → token = piece.token)

/-- The callback of a terminal is called once on what it has matched, if it hears of it, and no
other callback is called. -/
theorem callBack_logs (logs : lexer.Logs) {stop : Nat} {name : String}
    {value : Except Failure Value}
    (gives : (lexer.callBack vocabulary (lexer.cut cursor stop name).1).run.Gives
      before value after) :
    ∃ token, value = .ok (.token token) ∧
      lexer.Becomes ⟨name, (lexer.found vocabulary cursor stop name).1⟩ token ∧
      after.notes =
        before.notes ++ lexer.calls [⟨name, (lexer.found vocabulary cursor stop name).1⟩] := by
  have unheard (apart : ¬lexer.Hears ⟨name, (lexer.found vocabulary cursor stop name).1⟩) :
      lexer.calls [⟨name, (lexer.found vocabulary cursor stop name).1⟩] = [] := by
    simp [calls, apart]
  unfold callBack at gives
  dsimp only at gives
  split at gives
  next callback known =>
    split at gives
    next kept =>
      rcases logs name callback known (lexer.found vocabulary cursor stop name).1 before with
        ⟨token, after', yields, kind, notes⟩
      rcases gives.unique yields with ⟨rfl, rfl⟩
      have hears : lexer.Hears ⟨name, (lexer.found vocabulary cursor stop name).1⟩ :=
        ⟨kept, List.mem_map_of_mem (mem_of_assoc? known)⟩
      refine ⟨token, rfl, ⟨kind, fun apart => absurd hears apart⟩, ?_⟩
      rw [notes, calls, List.filter_cons_of_pos (by simpa using hears)]
      rfl
    next turned =>
      rcases Work.gives_pure.mp gives with ⟨rfl, rfl⟩
      refine ⟨_, rfl, ⟨rfl, fun _ => rfl⟩, ?_⟩
      rw [unheard fun hears => turned hears.1, List.append_nil]
  next unknown =>
    rcases Work.gives_pure.mp gives with ⟨rfl, rfl⟩
    refine ⟨_, rfl, ⟨rfl, fun _ => rfl⟩, ?_⟩
    have apart : ¬lexer.Hears ⟨name, (lexer.found vocabulary cursor stop name).1⟩ := by
      rintro ⟨_, among⟩
      rcases List.mem_map.mp among with ⟨entry, member, same⟩
      have known := isSome_assoc? member
      have unknown : assoc? lexer.callbacks name = none := unknown
      rw [same, unknown] at known
      cases known
    rw [unheard apart, List.append_nil]

/-- How the search for a token goes on after the pieces that are passed over: the text is at its
end, the lexer is stuck, or there is a piece that it keeps. The bound may also have been too low. -/
inductive Finding (lexer : Lexer) (vocabulary : Vocabulary) (standing : Option Standing)
    (cursor : Cursor) (counter : LineCounter) :
    Except Failure (Option Token) → Cursor → List Lexeme → Prop
  | ended (met : Cursor) (ended : cursor.text.size ≤ counter.position) :
      Finding lexer vocabulary standing cursor counter (.ok none) met []
  | stuck (met : Cursor) (here : counter.position < cursor.text.size)
      (none : vocabulary.scanner.matchAt cursor.text counter.position = none) :
      Finding lexer vocabulary standing cursor counter
        (.error (lexer.stuck vocabulary { cursor with counter } standing)) met []
  | kept {met : Cursor} {piece : Lexeme} {token : Token} (kept : piece.name ∉ lexer.ignored)
      (text : met.text = cursor.text)
      (cuts : lexer.Cuts vocabulary cursor.text counter [piece] met.counter)
      (becomes : lexer.Becomes piece token) :
      Finding lexer vocabulary standing cursor counter (.ok (some token)) met [piece]
  | endless (met : Cursor) :
      Finding lexer vocabulary standing cursor counter (.error (.fault .brokenPromise)) met []

/-- The search for a token passes over pieces that are ignored, and each piece is heard of as it is
cut off. Induction on the bound. -/
theorem nextWithin_pieces (logs : lexer.Logs) (prepared : lexer.vocabulary.get.1 = .ok vocabulary)
    (fuel : Nat) : ∀ {before : Workspace} {cursor : Cursor},
    (lexer.nextWithin standing fuel cursor).Gives before (answer, met) after →
    ∃ skipped counter found, lexer.Cuts vocabulary cursor.text cursor.counter skipped counter ∧
      (∀ piece ∈ skipped, piece.name ∈ lexer.ignored) ∧
      lexer.Finding vocabulary standing cursor counter answer met found ∧
      after.notes = before.notes ++ lexer.calls (skipped ++ found) := by
  induction fuel with
  | zero =>
      intro before cursor gives
      rcases Work.gives_pure.mp gives with ⟨same, rfl⟩
      cases same
      refine ⟨[], _, [], .nothing _, by simp, ?_, by simp [calls]⟩
      split
      next ended => exact .ended _ ended
      next => exact .endless _
  | succ fuel ih =>
      intro before cursor gives
      rw [nextWithin] at gives
      split at gives
      next ended =>
        rcases Work.gives_pure.mp gives with ⟨same, rfl⟩
        cases same
        exact ⟨[], _, [], .nothing _, by simp, .ended _ ended, by simp [calls]⟩
      next going =>
        have here := Nat.not_le.mp going
        rcases Work.gives_bind.mp gives with ⟨opened, between, opening, gives⟩
        rcases openVocabulary_gives opening with ⟨rfl, alike⟩
        rw [prepared] at gives
        dsimp only at gives
        split at gives
        next none =>
          rcases Work.gives_pure.mp gives with ⟨same, rfl⟩
          cases same
          refine ⟨[], _, [], .nothing _, by simp, .stuck _ here none, ?_⟩
          simp [calls, alike.notes]
        next stop name found =>
          rcases Work.gives_bind.mp gives with ⟨value, between', calling, gives⟩
          rcases callBack_logs logs calling with ⟨token, rfl, becomes, notes⟩
          rw [alike.notes] at notes
          dsimp only at gives
          split at gives
          next ignored =>
            rcases ih gives with ⟨skipped, counter, kept, cuts, all, outcome, notes'⟩
            refine ⟨_ :: skipped, counter, kept, .piece here found cuts, ?_, ?_, ?_⟩
            · rw [List.forall_mem_cons]
              exact ⟨List.contains_iff_mem.mp ignored, all⟩
            · cases outcome with
              | ended met ended => exact .ended met ended
              | stuck met here none => exact .stuck met here none
              | kept kept text cuts becomes => exact .kept kept text cuts becomes
              | endless met => exact .endless met
            · rw [notes', notes, List.append_assoc, ← calls_append]
              rfl
          next kept =>
            rcases Work.gives_pure.mp gives with ⟨same, rfl⟩
            cases same
            refine ⟨[], _, [_], .nothing _, by simp, .kept ?_ rfl ?_ becomes, notes⟩
            · simpa using kept
            · exact .piece here found (.nothing _)

/-- What is drained from a lexer comes from the pieces of the text that are not ignored, and each
piece, ignored or not, has been heard of in its turn. Induction on the limit. -/
theorem drain_pieces (logs : lexer.Logs) (prepared : lexer.vocabulary.get.1 = .ok vocabulary)
    (limit : Nat) : ∀ {stream : TokenStream} {cursor : Cursor} {before : Workspace}
      {drained : Drained},
    (TokenSource.drain { reader := .basic lexer } limit stream cursor).Gives
      before drained after →
    ∃ pieces last, lexer.Cuts vocabulary cursor.text cursor.counter pieces last ∧
      after.notes = before.notes ++ lexer.calls pieces ∧
      List.Forall₂ lexer.Becomes (pieces.filter fun piece => piece.name ∉ lexer.ignored)
        drained.tokens ∧
      (drained.Complete → lexer.EndsAt vocabulary cursor.text last drained.failure) := by
  induction limit with
  | zero =>
      intro stream cursor before drained gives
      rcases Work.gives_pure.mp gives with ⟨rfl, rfl⟩
      refine ⟨[], _, .nothing _, by simp [calls], .nil, ?_⟩
      rintro ⟨whole, _⟩
      cases whole
  | succ limit ih =>
      intro stream cursor before drained gives
      rw [TokenSource.drain] at gives
      rcases Work.gives_bind.mp gives with ⟨_, between, pulled, gives⟩
      rcases Work.gives_bind.mp pulled with ⟨⟨answer, met⟩, between', asked, pulled⟩
      rcases Work.gives_pure.mp pulled with ⟨rfl, rfl⟩
      rcases nextWithin_pieces logs prepared _ asked with
        ⟨skipped, counter, found, cuts, all, outcome, notes⟩
      have passed : skipped.filter (fun piece => piece.name ∉ lexer.ignored) = [] := by
        apply List.filter_eq_nil_iff.mpr
        intro piece member
        simpa using all piece member
      cases outcome with
      | ended met ended =>
          rcases Work.gives_pure.mp gives with ⟨rfl, rfl⟩
          rw [List.append_nil] at notes
          exact ⟨skipped, counter, cuts, notes, passed ▸ .nil, fun _ => .inl ⟨rfl, ended⟩⟩
      | stuck met here none =>
          rcases Work.gives_pure.mp gives with ⟨rfl, rfl⟩
          rw [List.append_nil] at notes
          exact ⟨skipped, counter, cuts, notes, passed ▸ .nil,
            fun _ => .inr ⟨⟨_, rfl⟩, here, none⟩⟩
      | endless met =>
          rcases Work.gives_pure.mp gives with ⟨rfl, rfl⟩
          rw [List.append_nil] at notes
          exact ⟨skipped, counter, cuts, notes, passed ▸ .nil,
            fun complete => absurd rfl complete.2⟩
      | @kept _ piece token kept text cut becomes =>
          rcases Work.gives_bind.mp gives with ⟨drained', between'', drains, gives⟩
          rcases Work.gives_pure.mp gives with ⟨rfl, rfl⟩
          rcases ih drains with ⟨pieces, last, rest, notes', tokens, ends⟩
          rw [text] at rest ends
          refine ⟨skipped ++ (piece :: pieces), last,
            cuts.append (cut.append rest), ?_, ?_, ends⟩
          · rw [notes', notes, List.append_assoc, ← calls_append, List.append_assoc]
            rfl
          · rw [List.filter_append, passed, List.nil_append,
              List.filter_cons_of_pos (by simpa using kept)]
            exact .cons becomes tokens

/-- A lexer whose vocabulary cannot be prepared cuts nothing off, and nobody hears of anything. -/
theorem drain_unprepared {limit : Nat} {text : String} {drained : Drained} {failure : Failure}
    (failed : lexer.vocabulary.get.1 = .error failure)
    (gives : (TokenSource.drain { reader := .basic lexer } limit {} (.ofText text)).Gives before
      drained after) :
    drained.tokens = [] ∧ after.notes = before.notes ∧
      (drained.cut = false ↔ limit ≠ 0) ∧
      (limit ≠ 0 → drained.failure = if text.toList.toArray.size = 0 then none
        else some failure) := by
  cases limit with
  | zero =>
      rcases Work.gives_pure.mp gives with ⟨rfl, rfl⟩
      simp
  | succ limit =>
      have answered : ∃ after, (lexer.next none (.ofText text)).Gives before
          (if text.toList.toArray.size = 0 then .ok none else .error failure,
            .ofText text) after ∧
            after.notes = before.notes := by
        by_cases ended : text.toList.toArray.size = 0
        · rw [if_pos ended, next_of_atEnd (Nat.le_of_eq ended)]
          exact ⟨before, Work.gives_pure.mpr ⟨rfl, rfl⟩, rfl⟩
        · rw [if_neg ended]
          have here : (Cursor.ofText text).counter.position < (Cursor.ofText text).text.size :=
            Nat.pos_of_ne_zero ended
          rcases next_of_unprepared failed here none before with ⟨after, gives, alike⟩
          exact ⟨after, gives, alike.notes⟩
      rcases answered with ⟨between, answered, notes⟩
      have pulled :
          (TokenSource.pull { reader := .basic lexer } none {} (.ofText text)).Gives before
            (if text.toList.toArray.size = 0 then .ok none else .error failure, {}, .ofText text)
            between :=
        Work.gives_bind.mpr ⟨_, _, answered, Work.gives_pure.mpr ⟨rfl, rfl⟩⟩
      rcases Work.gives_bind.mp gives with ⟨_, _, pulled', gives⟩
      rcases pulled.unique pulled' with ⟨rfl, rfl⟩
      by_cases ended : text.toList.toArray.size = 0
      · rw [if_pos ended] at gives ⊢
        rcases Work.gives_pure.mp gives with ⟨rfl, rfl⟩
        exact ⟨rfl, notes, by simp, by simp⟩
      · rw [if_neg ended] at gives ⊢
        rcases Work.gives_pure.mp gives with ⟨rfl, rfl⟩
        exact ⟨rfl, notes, by simp, by simp⟩

end Lexer

/-- More items are chosen by a laxer choice, unless it chooses the same ones. -/
theorem length_filter_eq_iff {α : Type} {items : List α} {p q : α → Bool}
    (laxer : ∀ item ∈ items, p item = true → q item = true) :
    (items.filter p).length = (items.filter q).length ↔
      ∀ item ∈ items, q item = true → p item = true := by
  constructor
  · intro same
    have among : (items.filter p).Sublist (items.filter q) := by
      have twice : items.filter p = (items.filter q).filter p := by
        rw [List.filter_filter]
        apply List.filter_congr
        intro item member
        have lax := laxer item member
        cases chosen : p item <;> simp_all
      rw [twice]
      exact List.filter_sublist
    have equal := among.eq_of_length same
    intro item member holds
    have chosen : item ∈ items.filter p := by
      rw [equal]
      exact List.mem_filter.mpr ⟨member, holds⟩
    exact (List.mem_filter.mp chosen).2
  · intro stricter
    congr 1
    apply List.filter_congr
    intro item member
    exact Bool.eq_iff_iff.mpr ⟨laxer item member, stricter item member⟩

namespace Lexer

variable {number : Nat} {settings : LexerSettings} {lexer : Lexer} {before after : Workspace}
  {callbacks : List (String × TokenHandler)}

/-- Callbacks hear of the matches of their terminals. If callbacks take down what they are called
on, what has been taken down when tokens have been drained from a text are the pieces of the text
that have been cut off, ignored or not, whose tokens have kept the names of their terminals and
whose terminals have callbacks: each is heard of once, in its turn, by the callback of its terminal
and by no other. This is what the callbacks of the kinds of the tokens ought to hear if and only if
no token has come back as a literal that has a callback, and so for any text if no expression
absorbs a literal that has one. -/
theorem callbacks_follow_matches (made : make number settings = .ok lexer)
    (logged : settings.callbacks = callbacks.map fun entry => (entry.1, logging entry.1 entry.2))
    (keeps : ∀ entry ∈ callbacks, TokenHandler.Keeps entry.2) {text : String} {limit : Nat}
    {drained : Drained}
    (gives : (TokenSource.drain { reader := .basic lexer } limit {} (.ofText text)).Gives before
      drained after) :
    ∃ pieces : List Lexeme,
      (∀ vocabulary, lexer.vocabulary.get.1 = .ok vocabulary → ∃ last,
        lexer.Cuts vocabulary text.toList.toArray {} pieces last ∧
          (drained.Complete → Stops vocabulary text.toList.toArray last)) ∧
      List.Forall₂ (fun piece token => token.kind = piece.token.kind)
        (pieces.filter fun piece => piece.name ∉ settings.ignored) drained.tokens ∧
      after.notes = before.notes ++ (pieces.filter fun piece =>
        piece.token.kind = piece.name ∧ piece.name ∈ callbacks.map (·.1)).map
          (fun piece => callNote piece.name piece.token) ∧
      (after.notes = before.notes ++ (pieces.filter fun piece =>
          piece.token.kind ∈ callbacks.map (·.1)).map
            (fun piece => callNote piece.token.kind piece.token) ↔
        ∀ piece ∈ pieces, piece.token.kind ∈ callbacks.map (·.1) →
          piece.token.kind = piece.name) ∧
      ((∀ terminal ∈ settings.terminals, Unicode.isIdentifier terminal.name.toList = true) →
        (∀ expression ∈ settings.terminals, ∀ literal ∈ settings.terminals,
          literal.pattern.kind = .literal →
            Vocabulary.absorbs settings.flags expression literal = true →
              literal.name ∉ callbacks.map (·.1)) →
        after.notes = before.notes ++ (pieces.filter fun piece =>
          piece.token.kind ∈ callbacks.map (·.1)).map
            fun piece => callNote piece.token.kind piece.token) := by
  have called : lexer.callbacks.map (·.1) = callbacks.map (·.1) := by
    rw [callbacks_of_make made, logged, List.map_map]
    rfl
  have logs : lexer.Logs := logs_of_keeps ((callbacks_of_make made).trans logged) keeps
  cases prepared : lexer.vocabulary.get.1 with
  | error failure =>
      rcases drain_unprepared prepared gives with ⟨none, notes, _⟩
      refine ⟨[], ?_, none ▸ .nil, ?_, ?_, ?_⟩
      · rintro _ ⟨⟩
      · simpa using notes
      · simpa using notes
      · exact fun _ _ => by simpa using notes
  | ok vocabulary =>
      rcases drain_pieces logs prepared limit gives with
        ⟨pieces, last, cuts, notes, tokens, ends⟩
      have kinds := cuts.kind
      -- The kind under which a callback hears of a piece is the kind of its token as well.
      have heard : (pieces.filter fun piece => lexer.Hears piece).map
            (fun piece => callNote piece.name piece.token) =
          (pieces.filter fun piece => lexer.Hears piece).map
            (fun piece => callNote piece.token.kind piece.token) := by
        apply List.map_congr_left
        intro piece member
        have hears : lexer.Hears piece := by simpa using (List.mem_filter.mp member).2
        rw [hears.1]
      have exactly : after.notes = before.notes ++ (pieces.filter fun piece =>
            piece.token.kind ∈ callbacks.map (·.1)).map
              (fun piece => callNote piece.token.kind piece.token) ↔
          ∀ piece ∈ pieces, piece.token.kind ∈ callbacks.map (·.1) →
            piece.token.kind = piece.name := by
        have laxer : ∀ piece ∈ pieces, decide (lexer.Hears piece) = true →
            decide (piece.token.kind ∈ callbacks.map (·.1)) = true := by
          intro piece _ hears
          rcases of_decide_eq_true hears with ⟨kept, among⟩
          rw [decide_eq_true_eq, kept, ← called]
          exact among
        have turns : (∀ piece ∈ pieces,
            decide (piece.token.kind ∈ callbacks.map (·.1)) = true →
              decide (lexer.Hears piece) = true) ↔
            ∀ piece ∈ pieces, piece.token.kind ∈ callbacks.map (·.1) →
              piece.token.kind = piece.name := by
          simp only [decide_eq_true_eq, Hears, called]
          refine forall₂_congr fun piece _ => ⟨fun hears among => (hears among).1, ?_⟩
          intro kept among
          exact ⟨kept among, kept among ▸ among⟩
        rw [← turns, ← length_filter_eq_iff laxer, notes, List.append_right_inj, calls, heard]
        constructor
        · intro same
          simpa using congrArg List.length same
        · intro same
          rw [List.filter_congr]
          intro piece member
          have stricter := (length_filter_eq_iff laxer).mp same
          exact Bool.eq_iff_iff.mpr ⟨laxer piece member, stricter piece member⟩
      refine ⟨pieces, ?_, ?_, ?_, exactly, ?_⟩
      · rintro _ ⟨⟩
        exact ⟨last, cuts, fun complete => (ends complete).stops⟩
      · rw [← ignored_of_make made]
        exact tokens.imp fun _ _ becomes => becomes.1
      · rw [notes, ← called]
        rfl
      · intro identifiers apart
        rw [exactly]
        rcases vocabulary_of_make made prepared with ⟨ordered, permuted, yields⟩
        have identifiers' : ∀ terminal ∈ ordered,
            Unicode.isIdentifier terminal.name.toList = true :=
          fun terminal member => identifiers terminal (permuted.subset member)
        intro piece member among
        by_contra turned
        rw [kinds piece member] at among turned
        rcases Vocabulary.exists_of_kindOf yields identifiers' turned with
          ⟨expression, listed, _, literal, listed', isLiteral, absorbs, _, named⟩
        rw [named] at among
        exact apart expression (permuted.subset listed) literal (permuted.subset listed') isLiteral
          absorbs among

/-- A word, a blank, and a keyword that is a word as well. -/
def remarks : List Terminal :=
  [{ name := "WORD", pattern := { kind := .expression, value := "[a-z]+" } },
    { name := "WS", pattern := { kind := .expression, value := " +" } },
    { name := "IF", pattern := { kind := .literal, value := "if" } }]

theorem remarks_inOrder : inOrder remarks = .ok remarks := inOrder_of_isOrdered (by decide +kernel)

/-- Callbacks for some kinds that hand each token back. -/
def listeners (kinds : List String) : List (String × TokenHandler) :=
  kinds.map fun kind => (kind, fun token => pure (.token token))

theorem listeners_keep (kinds : List String) :
    ∀ entry ∈ listeners kinds, TokenHandler.Keeps entry.2 := by
  intro entry member
  rcases List.mem_map.mp member with ⟨kind, _, rfl⟩
  intro token before
  exact ⟨token, before, Run.yields_pure.mpr ⟨rfl, rfl⟩, rfl, rfl⟩

/-- The settings of a lexer for remarks that ignores blanks and whose callbacks listen. -/
def listening (kinds : List String) : LexerSettings where
  terminals := remarks
  ignored := ["WS"]
  callbacks := (listeners kinds).map fun entry => (entry.1, logging entry.1 entry.2)

/-- What the lexer hands out, and what has been taken down. -/
def heard (kinds : List String) (text : String) : Drained × Workspace :=
  StateT.run (m := Id) (TokenSource.drain
    { reader := .basic (ofOrdered 0 (listening kinds) remarks) } 4 {} (.ofText text)) {}

theorem heard_gives (kinds : List String) (text : String) :
    (TokenSource.drain { reader := .basic (ofOrdered 0 (listening kinds) remarks) } 4 {}
      (.ofText text)).Gives {} (heard kinds text).1 (heard kinds text).2 :=
  rfl

/-- What there is to hear from the two lexers: the listeners for words and blanks hear of the blank
and of the word, and the listener for the keyword hears of nothing. -/
theorem hearings :
    (check (listening ["WORD", "WS"])).toOption.isSome = true ∧
    (heard ["WORD", "WS"] "if a").1.tokens.map Token.kind = ["IF", "WORD"] ∧
    (heard ["WORD", "WS"] "if a").2.notes.length = 2 ∧
    (∀ expression ∈ remarks, ∀ literal ∈ remarks, literal.pattern.kind = .literal →
      Vocabulary.absorbs {} expression literal = true → literal.name ∉ ["WORD", "WS"]) ∧
    (∀ terminal ∈ remarks, Unicode.isIdentifier terminal.name.toList = true) ∧
    (check (listening ["IF"])).toOption.isSome = true ∧
    (heard ["IF"] "if").1.tokens.map Token.kind = ["IF"] ∧
    (heard ["IF"] "if").2.notes.length = 0 := by
  decide +kernel

theorem callbacks_follow_matches_remarks : ∃ lexer drained after, ∃ pieces : List Lexeme,
    make 0 (listening ["WORD", "WS"]) = .ok lexer ∧
    (TokenSource.drain { reader := .basic lexer } 4 {} (.ofText "if a")).Gives {} drained after ∧
    drained.tokens.map Token.kind = ["IF", "WORD"] ∧ after.notes.length = 2 ∧
    after.notes = (pieces.filter fun piece => piece.token.kind ∈ ["WORD", "WS"]).map
      fun piece => callNote piece.token.kind piece.token := by
  rcases hearings with ⟨passes, kinds, notes, apart, identifiers, _⟩
  rcases exists_of_isSome passes with ⟨⟨⟩, checked⟩
  have made : make 0 (listening ["WORD", "WS"]) =
      .ok (ofOrdered 0 (listening ["WORD", "WS"]) remarks) :=
    make_eq_ok.mpr ⟨checked, _, remarks_inOrder, rfl⟩
  have gives := heard_gives ["WORD", "WS"] "if a"
  rcases callbacks_follow_matches made rfl (listeners_keep _) gives with
    ⟨pieces, _, _, _, _, follows⟩
  exact ⟨_, _, _, pieces, made, gives, kinds, notes, follows identifiers apart⟩

/-- The callback for a keyword is not called on a keyword that is a word as well. -/
theorem keyword_unheard : ∃ lexer drained after,
    make 0 (listening ["IF"]) = .ok lexer ∧
    (TokenSource.drain { reader := .basic lexer } 4 {} (.ofText "if")).Gives {} drained after ∧
    (∃ token ∈ drained.tokens, token.kind ∈ (listening ["IF"]).callbacks.map (·.1)) ∧
    after.notes = [] := by
  rcases hearings with ⟨_, _, _, _, _, passes, kinds, notes⟩
  rcases exists_of_isSome passes with ⟨⟨⟩, checked⟩
  refine ⟨_, _, _, make_eq_ok.mpr ⟨checked, _, remarks_inOrder, rfl⟩, heard_gives _ _, ?_,
    List.length_eq_zero_iff.mp notes⟩
  rcases List.mem_map.mp (kinds ▸ List.mem_singleton_self "IF") with ⟨token, member, kind⟩
  exact ⟨token, member, List.mem_singleton.mpr kind⟩

end Lexer

end Lalr
