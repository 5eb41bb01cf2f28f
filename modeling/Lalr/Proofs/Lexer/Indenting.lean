import Lalr.Lexer.Stream
import Lalr.Proofs.Runs

/-!
# Layout over a stream of tokens

Layout opens a block with an indent and closes it with a dedent, and it counts brackets. So
what it remembers between two tokens can be told from the tokens that it has been given and
those that it has given, and where they leave no block and no bracket open, it remembers
nothing that matters: it goes on as a layout does that has seen no token at all.
-/

namespace Lalr

namespace Layout

variable {rules : LayoutRules} {layout layout' : Layout} {token : Token} {widths : List Nat}

/-- Whether two layouts go on in the same way: the last token matters only where a block is open. -/
structure Alike (layout layout' : Layout) : Prop where
  open_ : layout.open_ = layout'.open_
  widths : layout.widths = layout'.widths
  last : layout.last = layout'.last ∨ layout.widths.length ≤ 1

/-- Layouts that go on alike are the same after a token. -/
theorem accept_alike (alike : layout.Alike layout') (token : Token) :
    layout.accept rules token = layout'.accept rules token := by
  unfold accept
  rw [alike.open_, alike.widths]

theorem finish_alike (alike : layout.Alike layout') :
    layout.finish rules = layout'.finish rules := by
  unfold finish
  rw [← alike.widths]
  rcases alike.last with same | short
  · rw [same]
  · rw [Nat.sub_eq_zero_of_le short]
    rfl

/-! ## Blocks and brackets -/

/-- Whether the outermost block is the margin. -/
def HasMargin (widths : List Nat) : Prop := widths.getLast? = some 0

/-- Where the outermost block is the margin, nothing is wrong at the end of the tokens. -/
theorem finishFailure?_eq_none (margin : HasMargin layout.widths) :
    layout.finishFailure? = none := by
  rcases List.getLast?_eq_some_iff.mp margin with ⟨inner, same⟩
  simp [finishFailure?, same]

/-- The blocks that a line leaves open are some of those that were open, and the margin is one of
them. -/
theorem closeBlocks_margin (width : Nat) (margin : HasMargin widths) :
    (closeBlocks width widths).length ≤ widths.length ∧ HasMargin
      (closeBlocks width widths) := by
  refine ⟨(List.dropWhile_suffix _).length_le, ?_⟩
  unfold HasMargin at margin ⊢
  rcases List.getLast?_eq_some_iff.mp margin with ⟨inner, rfl⟩
  rw [closeBlocks, List.dropWhile_append]
  split
  · rfl
  · simp

/-- How many tokens have a kind. -/
def countKind (kind : String) (tokens : List Token) : Nat := tokens.countP (·.kind == kind)

@[simp] theorem countKind_nil (kind : String) : countKind kind [] = 0 := rfl

theorem countKind_append (kind : String) (tokens more : List Token) :
    countKind kind (tokens ++ more) = countKind kind tokens + countKind kind more :=
  List.countP_append

theorem countKind_cons (kind : String) (token : Token) (tokens : List Token) :
    countKind kind (token :: tokens) =
      countKind kind tokens + if token.kind == kind then 1 else 0 := List.countP_cons

theorem countKind_replicate (kind : String) (count : Nat) (token : Token) :
    countKind kind (List.replicate count token) = if token.kind == kind then count else 0 :=
  List.countP_replicate

@[simp] theorem kind_borrowing (kind text : String) (token : Token) :
    (Token.borrowing kind (.text text) token).kind = kind := rfl

/-- Whether a token is neither an indent nor a dedent. -/
structure Foreign (rules : LayoutRules) (token : Token) : Prop where
  indent : token.kind ≠ rules.indent
  dedent : token.kind ≠ rules.dedent

/-- A line break opens a block for each indent that it gives, and closes one for each dedent. -/
theorem breakLine_balances (apart : rules.indent ≠ rules.dedent) (foreign : Foreign rules token)
    (margin : HasMargin widths) {given : List Token} {left : List Nat}
    (broke : breakLine rules widths token = (given, .ok left)) :
    countKind rules.indent given + widths.length = countKind rules.dedent given + left.length ∧
      HasMargin left := by
  unfold breakLine at broke
  split at broke
  next space innermost outer _ =>
    dsimp only at broke
    split at broke
    · cases broke
      refine ⟨?_, ?_⟩
      · simp [countKind_cons, foreign.indent, foreign.dedent, apart, Nat.add_comm]
      · unfold HasMargin at margin ⊢
        rw [List.getLast?_cons, margin]
        rfl
    · rcases Prod.mk.inj broke with ⟨rfl, ended⟩
      rcases closeBlocks_margin (widthOf rules space) margin with ⟨shorter, margin⟩
      split at ended
      · cases ended
      · split at ended
        · cases ended
          refine ⟨?_, margin⟩
          simp only [List.length_cons] at shorter ⊢
          simp [countKind_cons, countKind_replicate, foreign.indent, foreign.dedent, apart.symm]
          omega
        · cases ended
  next => cases (Prod.mk.inj broke).2

/-- How many brackets some tokens open. -/
def countOpening (rules : LayoutRules) (tokens : List Token) : Nat :=
  tokens.countP fun token => rules.opening.contains token.kind

/-- How many brackets some tokens close. -/
def countClosing (rules : LayoutRules) (tokens : List Token) : Nat :=
  tokens.countP fun token =>
    !rules.opening.contains token.kind && rules.closing.contains token.kind

theorem countBrackets_balances
    (counted : countBrackets rules layout token.kind = .ok layout') :
    layout'.widths = layout.widths ∧
      layout'.open_ + countClosing rules [token] = layout.open_ + countOpening rules [token] := by
  unfold countBrackets at counted
  split at counted
  next opens =>
    cases counted
    have opens : token.kind ∈ rules.opening := by simpa using opens
    simp [countClosing, countOpening, opens]
  next other =>
    have other : token.kind ∉ rules.opening := by simpa using other
    split at counted
    next closes =>
      have closes : token.kind ∈ rules.closing := by simpa using closes
      split at counted
      next => cases counted
      next count open_ =>
        cases counted
        simp [countClosing, countOpening, other, closes, open_]
    next neither =>
      cases counted
      have neither : token.kind ∉ rules.closing := by simpa using neither
      simp [countClosing, countOpening, other, neither]

/-- A token that layout is given leaves as many more blocks open as it gives indents more than
dedents, and counts as a bracket if it is one. -/
theorem accept_balances (apart : rules.indent ≠ rules.dedent) (foreign : Foreign rules token)
    (margin : HasMargin layout.widths) {given : List Token}
    (accepted : layout.accept rules token = (given, .ok layout')) :
    countKind rules.indent given + layout.widths.length =
        countKind rules.dedent given + layout'.widths.length ∧
      HasMargin layout'.widths ∧
      layout'.open_ + countClosing rules [token] = layout.open_ + countOpening rules [token] := by
  unfold accept at accepted
  have passed : countKind rules.indent [token] = 0 ∧ countKind rules.dedent [token] = 0 := by
    simp [countKind_cons, foreign.indent, foreign.dedent]
  dsimp only at accepted
  split at accepted
  next =>
    split at accepted
    next =>
      rcases Prod.mk.inj accepted with ⟨broke, counted⟩
      rcases bind_eq_ok.mp counted with ⟨left, ended, counted⟩
      rcases breakLine_balances apart foreign margin (Prod.ext broke ended) with
        ⟨balances, margin⟩
      rcases countBrackets_balances counted with ⟨widths, brackets⟩
      rw [widths]
      exact ⟨balances, margin, brackets⟩
    next =>
      rcases Prod.mk.inj accepted with ⟨rfl, counted⟩
      rcases countBrackets_balances counted with ⟨widths, brackets⟩
      rw [widths]
      exact ⟨rfl, margin, brackets⟩
  next =>
    rcases Prod.mk.inj accepted with ⟨rfl, counted⟩
    rcases countBrackets_balances counted with ⟨widths, brackets⟩
    rw [widths, passed.1, passed.2]
    exact ⟨rfl, margin, brackets⟩

end Layout

namespace TokenStream

variable {rules : LayoutRules} {given taken : List Token} {stream stream' : TokenStream}

/-- What a stream behind layout is after layout has been given some tokens, from the beginning on,
and some of those that it has given have been taken. -/
inductive Comes (rules : LayoutRules) : List Token → List Token → TokenStream → Prop
  | start : Comes rules [] [] {}
  | given {given taken : List Token} {stream : TokenStream} (comes : Comes rules given taken stream)
      (untaken : stream.ready = []) (going : stream.after = .goOn) (token : Token) :
      Comes rules (given ++ [token]) taken (stream.push (.layout rules) token)
  | taken {given taken rest : List Token} {stream : TokenStream} {token : Token}
      (comes : Comes rules given taken stream) (ready : stream.ready = token :: rest) :
      Comes rules given (taken ++ [token]) { stream with ready := rest }
  | ended {given taken : List Token} {stream : TokenStream} (comes : Comes rules given taken stream)
      (untaken : stream.ready = []) (going : stream.after = .goOn) :
      Comes rules given taken (stream.close (.layout rules))

/-- Whether what layout remembers tallies with the tokens that it has been given and has given. -/
structure Tallies (rules : LayoutRules) (given taken : List Token)
    (stream : TokenStream) : Prop where
  blocks : Layout.countKind rules.indent (taken ++ stream.ready) + 1 =
    Layout.countKind rules.dedent (taken ++ stream.ready) + stream.layout.widths.length
  margin : Layout.HasMargin stream.layout.widths
  brackets : stream.layout.open_ + Layout.countClosing rules given = Layout.countOpening rules given

theorem push_eq_goOn {postLexer : PostLexer} {token : Token}
    (going : (stream.push postLexer token).after = .goOn) :
    ∃ ready layout, postLexer.accept stream.layout token = (ready, .ok layout) ∧
      stream.push postLexer token = { layout, ready, after := .goOn } := by
  unfold push at going ⊢
  split at going
  next ready layout accepted => exact ⟨ready, layout, accepted, rfl⟩
  next => cases going

/-- As long as nothing is wrong, what layout remembers tallies. Induction on how the stream has come
to be what it is. -/
theorem Comes.tallies (apart : rules.indent ≠ rules.dedent)
    (comes : stream.Comes rules given taken)
    (foreign : ∀ token ∈ given, Layout.Foreign rules token) (going : stream.after = .goOn) :
    Tallies rules given taken stream := by
  induction comes with
  | start => exact ⟨rfl, rfl, rfl⟩
  | @given given taken stream comes untaken going' token ih =>
      rw [List.forall_mem_append] at foreign
      rcases ih foreign.1 going' with ⟨blocks, margin, brackets⟩
      rcases push_eq_goOn going with ⟨ready, layout, accepted, same⟩
      rcases Layout.accept_balances apart (foreign.2 token (List.mem_singleton_self _))
        margin accepted with
        ⟨balances, margin, counts⟩
      rw [same]
      rw [untaken, List.append_nil] at blocks
      refine ⟨?_, margin, ?_⟩
      · simp only [Layout.countKind_append]
        omega
      · simp only [Layout.countClosing, Layout.countOpening,
          List.countP_append] at counts brackets ⊢
        omega
  | @taken given taken rest stream token comes ready ih =>
      rcases ih foreign going with ⟨blocks, margin, brackets⟩
      rw [ready, List.append_cons] at blocks
      exact ⟨blocks, margin, brackets⟩
  | ended =>
      unfold close at going
      dsimp only at going
      split at going <;> cases going

/-- Whether two streams go on in the same way. -/
structure Alike (stream stream' : TokenStream) : Prop where
  layout : stream.layout.Alike stream'.layout
  ready : stream.ready = stream'.ready
  after : stream.after = stream'.after

/-- A stream behind layout that has no token ready goes on as one that has just begun does, where no
block and no bracket is left open by the tokens so far. -/
theorem Comes.alike_start (apart : rules.indent ≠ rules.dedent)
    (comes : stream.Comes rules given taken)
    (foreign : ∀ token ∈ given, Layout.Foreign rules token) (untaken : stream.ready = [])
    (going : stream.after = .goOn)
    (closed : Layout.countKind rules.indent taken = Layout.countKind rules.dedent taken)
    (shut : Layout.countOpening rules given = Layout.countClosing rules given) :
    stream.Alike {} := by
  rcases comes.tallies apart foreign going with ⟨blocks, margin, brackets⟩
  rw [untaken, List.append_nil, closed] at blocks
  have single : stream.layout.widths.length = 1 := by omega
  have none : stream.layout.open_ = 0 := by omega
  rcases List.length_eq_one_iff.mp single with ⟨width, same⟩
  rw [same] at margin
  cases margin
  exact ⟨⟨none, same, .inr (Nat.le_of_eq single)⟩, untaken, going⟩

theorem push_alike (alike : stream.Alike stream') (token : Token) :
    (stream.push (.layout rules) token).Alike (stream'.push (.layout rules) token) := by
  have same : PostLexer.accept (.layout rules) stream.layout token =
      PostLexer.accept (.layout rules) stream'.layout token :=
        Layout.accept_alike alike.layout token
  unfold push
  rw [same]
  split
  · exact ⟨⟨rfl, rfl, .inl rfl⟩, rfl, rfl⟩
  · exact ⟨alike.layout, rfl, rfl⟩

/-- A stream that is closed with the margin as the outermost block comes to its end. -/
theorem close_of_margin (margin : Layout.HasMargin stream.layout.widths) :
    stream.close (.layout rules) =
      { stream with ready := stream.layout.finish rules, after := .stop } := by
  simp only [close, PostLexer.finish, PostLexer.finishFailure?,
    Layout.finishFailure?_eq_none margin]

theorem close_alike (alike : stream.Alike stream') :
    (stream.close (.layout rules)).Alike (stream'.close (.layout rules)) :=
  ⟨alike.layout, Layout.finish_alike alike.layout,
    by simp only [close, PostLexer.finishFailure?, Layout.finishFailure?, alike.layout.widths]⟩

section

variable {σ : Type} {source : σ → Work (Except Failure (Option Token) × σ)} {state : σ}
  {postLexer : PostLexer}

/-- Where a token is ready, or the stream does not go on, the source is left alone and layout does
not matter. -/
theorem pullWithin_settled (postLexer : PostLexer)
    (source : σ → Work (Except Failure (Option Token) × σ)) {fuel : Nat} {ready : List Token}
    {ending : StreamEnd} (stays : ready = [] → ending = .goOn → fuel = 0) :
    ∃ answer ready' ending', ∀ layout state,
      pullWithin postLexer source fuel ⟨layout, ready, ending⟩ state =
        pure (answer, ⟨layout, ready', ending'⟩, state) := by
  cases ready with
  | cons token rest =>
      refine ⟨.ok (some token), rest, ending, fun layout state => ?_⟩
      unfold pullWithin
      rfl
  | nil =>
      cases ending with
      | goOn =>
          rcases stays rfl rfl with rfl
          refine ⟨.ok none, [], .goOn, fun layout state => ?_⟩
          unfold pullWithin
          rfl
      | fail failure =>
          refine ⟨.error failure, [], .stop, fun layout state => ?_⟩
          unfold pullWithin
          rfl
      | stop =>
          refine ⟨.ok none, [], .stop, fun layout state => ?_⟩
          unfold pullWithin
          rfl

theorem pullWithin_succ (fuel : Nat) (layout : Layout) :
    pullWithin postLexer source (fuel + 1) ⟨layout, [], .goOn⟩ state =
      source state >>= fun (answer, state) =>
        match answer with
        | .error failure => return (.error failure, ⟨layout, [], .stop⟩, state)
        | .ok none =>
          pullWithin postLexer source fuel (close postLexer ⟨layout, [], .goOn⟩) state
        | .ok (some token) =>
          pullWithin postLexer source fuel
            (push postLexer ⟨layout, [], .goOn⟩ token) state := by
  rw [pullWithin]
  refine congrArg (source state >>= ·) (funext fun (answer, state) => ?_)
  rcases answer with failure | _ | token <;> rfl

/-- Streams that go on alike give the same tokens from the same source, and are alike again.
Induction on the tokens of the source. -/
theorem pullWithin_alike (fuel : Nat) : ∀ {stream stream' next : TokenStream} {state state' : σ}
      {before after : Workspace} {answer : Except Failure (Option Token)}, stream.Alike stream' →
      (pullWithin (.layout rules) source fuel stream state).Gives before (answer, next, state')
        after →
      ∃ next', next.Alike next' ∧
        (pullWithin (.layout rules) source fuel stream' state).Gives before (answer, next', state')
          after := by
  have settled (fuel : Nat) {layout layout' : Layout} {ready : List Token} {ending : StreamEnd}
      {next : TokenStream} {state state' : σ} {before after : Workspace}
      {answer : Except Failure (Option Token)} (alike : layout.Alike layout')
      (stays : ready = [] → ending = .goOn → fuel = 0)
      (gives : (pullWithin (.layout rules) source fuel ⟨layout, ready, ending⟩ state).Gives
        before (answer, next, state') after) :
      ∃ next', next.Alike next' ∧
        (pullWithin (.layout rules) source fuel ⟨layout', ready, ending⟩ state).Gives before
          (answer, next', state') after := by
    rcases pullWithin_settled (.layout rules) source stays with ⟨answer', ready', ending', same⟩
    rw [same] at gives ⊢
    rcases Work.gives_pure.mp gives with ⟨given, rfl⟩
    cases given
    exact ⟨⟨layout', ready', ending'⟩, ⟨alike, rfl, rfl⟩,
      Work.gives_pure.mpr ⟨rfl, rfl⟩⟩
  induction fuel with
  | zero =>
      rintro ⟨layout, ready, ending⟩ ⟨layout', _, _⟩ next state state' before after answer
        ⟨alike, rfl, rfl⟩ gives
      exact settled 0 alike (fun _ _ => rfl) gives
  | succ fuel ih =>
      rintro ⟨layout, ready, ending⟩ ⟨layout', _, _⟩ next state state' before after answer
        ⟨alike, rfl, rfl⟩ gives
      by_cases goes : ready = [] ∧ ending = .goOn
      · rcases goes with ⟨rfl, rfl⟩
        rw [pullWithin_succ] at gives ⊢
        rcases Work.gives_bind.mp gives with ⟨⟨found, state''⟩, between, asked, gives⟩
        have alike : Alike ⟨layout, [], .goOn⟩ ⟨layout', [], .goOn⟩ := ⟨alike, rfl, rfl⟩
        rcases found with failure | _ | token
        · rcases Work.gives_pure.mp gives with ⟨same, rfl⟩
          cases same
          exact ⟨⟨layout', [], .stop⟩, ⟨alike.layout, rfl, rfl⟩,
            Work.gives_bind.mpr ⟨_, _, asked, Work.gives_pure.mpr ⟨rfl, rfl⟩⟩⟩
        · rcases ih (close_alike alike) gives with ⟨next', alike', gives'⟩
          exact ⟨next', alike', Work.gives_bind.mpr ⟨_, _, asked, gives'⟩⟩
        · rcases ih (push_alike alike token) gives with ⟨next', alike', gives'⟩
          exact ⟨next', alike', Work.gives_bind.mpr ⟨_, _, asked, gives'⟩⟩
      · exact settled (fuel + 1) alike (fun none going => absurd ⟨none, going⟩ goes) gives

end

end TokenStream

end Lalr
