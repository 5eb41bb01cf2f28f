import Lalr.Proofs.Lexer.Indenting
import Lalr.Proofs.Parser.Driving
import Lalr.Proofs.Parser.Sorted

/-!
# Parses with layout that are taken up again

A parse that is interrupted and taken up again goes on with a stream that has just begun. So
layout forgets the blocks and the brackets that are open, and the tokens that it has given and
nobody has taken. Where there are none, nothing is lost: the parse gets the tokens that it
would have got without the interruption.
-/

namespace Lalr

/-- Computations that give the same wherever they start are equal. -/
theorem Work.ext {α : Type} {work work' : Work α}
    (same : ∀ before answer after, work.Gives before answer after →
      work'.Gives before answer after) :
    work = work' :=
  funext fun before => (same before _ _ (Work.gives work before)).symm

namespace Parser

variable {parser : Parser} {rules : LayoutRules} {stream stream' next : TokenStream}
  {session met : Session} {before after : Workspace} {answer : Except Failure (Option Token)}

theorem pull_alike (connected : parser.source.postLexer = some (.layout rules))
    (alike : stream.Alike stream')
    (gives : (parser.pull stream session).Gives before (answer, next, met) after) :
    ∃ next', next.Alike next' ∧ (parser.pull stream' session).Gives before (answer, next', met)
      after := by
  unfold pull at gives ⊢
  cases at_ : session.cursor with
  | none =>
      simp only [at_] at gives ⊢
      rcases Work.gives_pure.mp gives with ⟨same, rfl⟩
      cases same
      exact ⟨stream', alike, Work.gives_pure.mpr ⟨rfl, rfl⟩⟩
  | some cursor =>
      simp only [at_, TokenSource.pull, connected] at gives ⊢
      rcases Work.gives_bind.mp gives with
        ⟨⟨answer', next', cursor'⟩, between, pulled, gives⟩
      rcases Work.gives_pure.mp gives with ⟨same, rfl⟩
      cases same
      rcases TokenStream.pullWithin_alike _ alike pulled with ⟨next', alike, pulled⟩
      exact ⟨next', alike,
        Work.gives_bind.mpr ⟨_, _, pulled, Work.gives_pure.mpr ⟨rfl, rfl⟩⟩⟩

/-- From streams that go on alike the same tokens are taken. Induction on their number. -/
theorem takeTokens_alike (connected : parser.source.postLexer = some (.layout rules))
    (count : Nat) :
    ∀ {stream stream' : TokenStream} (session : Session), stream.Alike stream' →
      parser.takeTokens count stream session = parser.takeTokens count stream' session := by
  induction count with
  | zero => exact fun session _ => rfl
  | succ count ih =>
      intro stream stream' session alike
      refine Work.ext fun before answer after gives => ?_
      rw [takeTokens] at gives ⊢
      rcases Work.gives_bind.mp gives with ⟨⟨found, next, met⟩, between, pulled, gives⟩
      rcases pull_alike connected alike pulled with ⟨next', alike, pulled⟩
      refine Work.gives_bind.mpr ⟨_, _, pulled, ?_⟩
      rcases found with failure | _ | token
      · exact gives
      · exact gives
      · cases count with
        | zero => exact gives
        | succ count =>
            rcases Work.gives_bind.mp gives with
              ⟨⟨stepped, session'⟩, between', stepping, gives⟩
            refine Work.gives_bind.mpr ⟨_, _, stepping, ?_⟩
            cases stepped with
            | error failure => exact gives
            | ok done =>
                rcases Work.gives_bind.mp gives with ⟨rest, between'', taking, gives⟩
                rw [ih session' alike] at taking
                exact Work.gives_bind.mpr ⟨_, _, taking, gives⟩

/-- With streams that go on alike runs come to the same. Induction on the number of tokens. -/
theorem runWithin_alike (connected : parser.source.postLexer = some (.layout rules)) (fuel : Nat) :
    ∀ {stream stream' : TokenStream} (last : Option Token) (session : Session),
      stream.Alike stream' →
      parser.runWithin fuel stream last session = parser.runWithin fuel stream' last session := by
  induction fuel with
  | zero => exact fun _ _ _ => rfl
  | succ fuel ih =>
      intro stream stream' last session alike
      refine Work.ext fun before answer after gives => ?_
      rw [runWithin] at gives ⊢
      rcases Work.gives_bind.mp gives with ⟨⟨found, next, met⟩, between, pulled, gives⟩
      rcases pull_alike connected alike pulled with ⟨next', alike, pulled⟩
      refine Work.gives_bind.mpr ⟨_, _, pulled, ?_⟩
      rcases found with failure | _ | token
      · exact gives
      · exact gives
      · rcases Work.gives_bind.mp gives with ⟨⟨fed, session'⟩, between', feeding, gives⟩
        refine Work.gives_bind.mpr ⟨_, _, feeding, ?_⟩
        cases fed with
        | error failure => exact gives
        | ok value =>
            have rest : (parser.runWithin fuel next (some token) session').Gives between' answer
              after := gives
            rw [ih (some token) session' alike] at rest
            exact rest

/-- Where the reader is at the end of the text, there are no more tokens behind a stream that has
ended, and none behind one that begins anew. -/
theorem pull_ended (connected : parser.source.postLexer = some (.layout rules))
    (untaken : stream.ready = []) (stopped : stream.after = .stop) {cursor : Cursor}
    (here : session.cursor = some cursor)
    (ended : parser.source.reader.next session.standing? cursor = pure (.ok none, cursor)) :
    ∃ next, parser.pull stream session = pure (.ok none, stream, session) ∧
      parser.pull {} session = pure (.ok none, next, session) := by
  rcases stream with ⟨layout, ready, ending⟩
  cases untaken
  cases stopped
  have stays : { session with cursor := some cursor } = session := by rw [← here]
  have none (fuel : Nat) (layout : Layout) :
      TokenStream.pullWithin (.layout rules) (parser.source.reader.next session.standing?) fuel
        ⟨layout, [], .stop⟩ cursor = pure (.ok none, ⟨layout, [], .stop⟩, cursor) := by
    unfold TokenStream.pullWithin
    rfl
  simp only [pull, here, TokenSource.pull, connected, none, pure_bind, stays]
  generalize cursor.text.size + 3 - cursor.counter.position = fuel
  cases fuel with
  | zero =>
      refine ⟨{}, trivial, ?_⟩
      unfold TokenStream.pullWithin
      simp only [pure_bind, stays]
  | succ fuel =>
      refine ⟨⟨{}, [], .stop⟩, trivial, ?_⟩
      rw [TokenStream.pullWithin_succ, ended, pure_bind]
      have closed : TokenStream.close (.layout rules) ⟨{}, [], .goOn⟩ =
          ⟨{}, [], .stop⟩ := rfl
      simp only [closed, none, pure_bind, stays]

/-- Whether a parse that is interrupted loses nothing of what its stream behind layout remembers. No
token of the stream is left untaken; and either the stream has ended, and so has the text, or layout
is told by the tokens that it has been given and those that have been taken that no block and no
bracket is open. -/
inductive Spared (parser : Parser) (rules : LayoutRules) (stream : TokenStream)
    (session : Session) :
    Prop
  | closed {given taken : List Token} (comes : stream.Comes rules given taken)
      (foreign : ∀ token ∈ given, Layout.Foreign rules token) (untaken : stream.ready = [])
      (going : stream.after = .goOn)
      (blocks : Layout.countKind rules.indent taken = Layout.countKind rules.dedent taken)
      (brackets : Layout.countOpening rules given = Layout.countClosing rules given)
  | ended (untaken : stream.ready = []) (stopped : stream.after = .stop)
      (ended : ∀ cursor, session.cursor = some cursor →
        parser.source.reader.next session.standing? cursor = pure (.ok none, cursor))

/-- A parse that is interrupted and taken up again gets the tokens that it would have got without
the interruption, and comes to the same, if nothing is lost: no token that layout has given is left,
each indent that has been taken has been followed by its dedent, and each bracket has been closed.
This holds where tokens are taken one by one, and where the session is resumed. -/
theorem resume_continues (connected : parser.source.postLexer = some (.layout rules))
    (apart : rules.indent ≠ rules.dedent) (spared : parser.Spared rules stream session) :
    (∀ count, parser.takeTokens count {} session = parser.takeTokens count stream session) ∧
      ∀ {cursor : Cursor}, session.cursor = some cursor →
        parser.resume session =
          parser.runWithin (tokenBound session + 1) stream cursor.last session := by
  have resumes {cursor : Cursor} (here : session.cursor = some cursor) :
      parser.resume session = parser.runWithin (tokenBound session + 1) {} cursor.last session := by
    rw [resume, here]
    rfl
  cases spared with
  | closed comes foreign untaken going blocks brackets =>
      have alike := comes.alike_start apart foreign untaken going blocks brackets
      refine ⟨fun count => (takeTokens_alike connected count session alike).symm,
        fun here => ?_⟩
      rw [resumes here, runWithin_alike connected _ _ session alike]
  | ended untaken stopped ended =>
      refine ⟨fun count => ?_, fun {cursor} here => ?_⟩
      · cases here : session.cursor with
        | none =>
            cases count with
            | zero => rfl
            | succ count => simp only [takeTokens, pull, here, pure_bind]
        | some cursor =>
            rcases pull_ended connected untaken stopped here (ended cursor here) with
              ⟨next, old, new⟩
            cases count with
            | zero => rfl
            | succ count => simp only [takeTokens, old, new, pure_bind]
      · rcases pull_ended connected untaken stopped here (ended cursor here) with
          ⟨next, old, new⟩
        simp only [resumes here, runWithin, old, new, pure_bind]

/-! ## A block that is left open -/

/-- A word at the margin, and a word in a block. -/
def blockTerminals : List Terminal :=
  [{ name := "NAME", pattern := { kind := .expression, value := "[a-z]+" } },
    { name := "_NEWLINE", pattern := { kind := .expression, value := "\\n *" } }]

def blockRule : Rule where
  origin := "start"
  expansion := [.terminal "NAME" false, .terminal "_NEWLINE" true, .terminal "_INDENT" true,
    .terminal "NAME" false, .terminal "_DEDENT" true]

def blockTable : Table State where
  rows := [
    (.number 0, [("NAME", .shift (.number 1)), ("start", .shift (.number 6))]),
    (.number 1, [("_NEWLINE", .shift (.number 2))]),
    (.number 2, [("_INDENT", .shift (.number 3))]),
    (.number 3, [("NAME", .shift (.number 4))]),
    (.number 4, [("_DEDENT", .shift (.number 5))]),
    (.number 5, [("$END", .reduce blockRule)]),
    (.number 6, [])]
  starts := [("start", .number 0)]
  ends := [("start", .number 6)]

def blockParser : Parser :=
  basicOf blockTerminals [blockRule] blockTable [] (some (.layout .standard))

theorem blockParser_made : ∃ after,
    (make blockTerminals [blockRule] blockTable []
      { contextual := false, postLexer := .ok (some (.layout .standard)) }).Yields {} blockParser
        after :=
  basicOf_made (by decide +kernel) (Lexer.inOrder_of_isOrdered (by decide +kernel))

/-- A token of a word. -/
def wordToken (text : String) : Token := { kind := "NAME", text }

/-- A token of a line break and the white space after it. -/
def breakToken (space : String) : Token := { kind := "_NEWLINE", text := "\n" ++ space }

/-- What is left of a stream after a block has been opened and closed: the last token. -/
def closedStream : TokenStream := { layout := { last := some (breakToken "") } }

/-- The indent of a block, and the dedent at its end, have been taken. -/
theorem closedStream_comes : closedStream.Comes .standard
    [wordToken "a", breakToken " ", wordToken "b", breakToken ""]
    [wordToken "a", breakToken " ", Token.borrowing "_INDENT" (.text " ") (breakToken " "),
      wordToken "b", breakToken "", Token.borrowing "_DEDENT" (.text "") (breakToken "")] := by
  have step {given taken : List Token} {widths : List Nat} {last : Option Token} (token : Token)
      {ready : List Token} {left : List Nat}
      (comes : TokenStream.Comes .standard given taken ⟨⟨0, widths, last⟩, [], .goOn⟩)
      (accepted : Layout.accept .standard ⟨0, widths, last⟩ token =
        (ready, .ok ⟨0, left, some token⟩)) :
      TokenStream.Comes .standard (given ++ [token]) taken
        ⟨⟨0, left, some token⟩, ready, .goOn⟩ := by
    have pushed := comes.given rfl rfl token
    have same : TokenStream.push (.layout .standard) ⟨⟨0, widths, last⟩, [], .goOn⟩ token =
        ⟨⟨0, left, some token⟩, ready, .goOn⟩ := by
      rw [TokenStream.push, show PostLexer.accept (.layout .standard) _ token = _ from accepted]
    rwa [same] at pushed
  have first := (step (wordToken "a") .start (by rfl)).taken rfl
  have opened := ((step (breakToken " ") first (by rfl)).taken rfl).taken rfl
  have second := (step (wordToken "b") opened (by rfl)).taken rfl
  exact ((step (breakToken "") second (by rfl)).taken rfl).taken rfl

/-- A session that has the rest of a text before it. -/
def restSession : Session where
  stack := { states := [.number 0], values := [] }
  starting := .number 0
  ending := .number 6
  cursor := some (.ofText "c\n d")

/-- After the block the parse goes on as if it had not been interrupted. -/
theorem resume_continues_closed :
    (∀ count, blockParser.takeTokens count {} restSession =
      blockParser.takeTokens count closedStream restSession) ∧
    blockParser.resume restSession =
      blockParser.runWithin (tokenBound restSession + 1) closedStream (Cursor.ofText "c\n d").last
        restSession := by
  have spared : blockParser.Spared .standard closedStream restSession := by
    refine .closed closedStream_comes ?_ rfl rfl (by decide) (by decide)
    simp only [List.forall_mem_cons, List.not_mem_nil, false_imp_iff, implies_true, and_true]
    exact ⟨⟨by decide, by decide⟩, ⟨by decide, by decide⟩, ⟨by decide, by decide⟩,
      ⟨by decide, by decide⟩⟩
  have connected : blockParser.source.postLexer = some (.layout .standard) := rfl
  rcases resume_continues connected (by decide) spared with ⟨takes, resumes⟩
  exact ⟨takes, @resumes (.ofText "c\n d") rfl⟩

/-- A parse that is interrupted in a block and taken up again does not get the dedent that ends the
block. -/
theorem resume_forgets : ∃ made,
    (make blockTerminals [blockRule] blockTable []
      { contextual := false, postLexer := .ok (some (.layout .standard)) }).Yields {} blockParser
        made ∧
    (∃ value after, (blockParser.parse "a\n b" none).Yields {} value after) ∧
    ∃ failure after,
      (blockParser.parseStepwise 3 .resuming "a\n b" none).run.Gives {} (.error failure) after ∧
        failure.isStuck = true ∧ failure.kind? = some "UnexpectedEOF" := by
  rcases blockParser_made with ⟨made, make⟩
  have parsed := blame_eq_none (show blame (StateT.run (m := Id)
    (blockParser.parse "a\n b" none).run {}) = none by decide +kernel)
  rcases blame_eq_some (show blame
      (StateT.run (m := Id) (blockParser.parseStepwise 3 .resuming "a\n b" none).run {}) =
        some (true, some "UnexpectedEOF", some 3) by decide +kernel) with
    ⟨failure, after, failed, stuck, kind, _⟩
  exact ⟨made, make, parsed, failure, after, failed, stuck, kind⟩

end Parser

end Lalr
