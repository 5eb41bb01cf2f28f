import Lalr.CommandLine.Answer
import Lalr.Proofs.Parser.Answering

/-!
# Requests that are answered

With a grammar that keeps its promises a request is answered: with the table, with the tokens or the
tree of the text, or with what is wrong with the text. There are two ways out of this. A lexer that
cannot be prepared is noticed only when it is needed, and what the failure says is not always a
complaint. And the answer to a text is shown as a tree even if it is not one.
-/

namespace Lalr

namespace CommandLine

variable {request : Request} {source : Except Unreadable String} {parser : Parser}
  {before after : Workspace}

/-- What opening a record comes to, given what loading it has come to. -/
def admitted : Except Failure Parser → Except Failure (Except String Parser)
  | .ok parser => .ok (.ok parser)
  | .error failure =>
    if isComplaintAboutGrammar failure then .ok (.error (failure.message [])) else .error failure

/-- A record is opened by loading what it holds, and some failures are complained about. -/
theorem run_openGrammar {text : String} {data : Data} (read : Data.ofJson? text = some data)
    (isRecord : data.isRecord = true) {answer : Except Failure Parser}
    (ran : StateT.run (m := Id) (Parser.load data
      [("propagate_positions", .data (.bool request.wishes.positions))]).run before =
        (answer, after)) :
    StateT.run (m := Id) (openGrammar request (.ok text)).run before =
      (admitted answer, after) := by
  unfold openGrammar
  dsimp only
  rw [read]
  dsimp only
  rw [isRecord, if_pos rfl]
  simp only [StateT.run, ExceptT.run] at ran ⊢
  simp only [tryCatch, tryCatchThe, MonadExceptOf.tryCatch, ExceptT.tryCatch, EarlyReturnT.return,
    EarlyReturn.runK, bind, ExceptT.bind, ExceptT.mk, ExceptT.bindCont,
    StateT.bind, throw, throwThe, MonadExceptOf.throw, ran]
  cases answer with
  | ok parser => rfl
  | error failure =>
      -- A fault is complained about by its cause, every other failure by its kind.
      cases failure with
      | fault cause => cases cause <;> rfl
      | _ => rfl

/-- A grammar that is opened is a parser that has been loaded. -/
theorem exists_load_of_openGrammar
    (opens : (openGrammar request source).Yields before (.ok parser) after) :
    ∃ text data, source = .ok text ∧ Data.ofJson? text = some data ∧
      (Parser.load data
        (asSettings [("propagate_positions", .bool request.wishes.positions)])).Yields before
          parser after := by
  cases source with
  | error reason => cases (Run.yields_pure.mp opens).1
  | ok text =>
      cases read : Data.ofJson? text with
      | none =>
          unfold openGrammar at opens
          dsimp only at opens
          rw [read] at opens
          cases (Run.yields_pure.mp opens).1
      | some data =>
          refine ⟨text, data, rfl, read, ?_⟩
          cases isRecord : data.isRecord with
          | false =>
              unfold openGrammar at opens
              dsimp only at opens
              rw [read] at opens
              dsimp only at opens
              rw [isRecord] at opens
              rcases Run.yields_bind.mp opens with ⟨_, _, failed, _⟩
              exact absurd failed Run.yields_throw
          | true =>
              rcases ran : StateT.run (m := Id) (Parser.load data
                [("propagate_positions", .data (.bool request.wishes.positions))]).run before with
                ⟨answer, later⟩
              have same := (run_openGrammar read isRecord ran).symm.trans opens
              cases answer with
              | ok parser' =>
                  cases same
                  exact ran
              | error failure =>
                  unfold admitted at same
                  dsimp only at same
                  split at same <;> cases same

/-! ## Answers -/

/-- The text that a request is about. -/
def textOf (request : Request) (input : String) : String :=
  if request.words.isEmpty then input else Text.joinWith " " request.words

/-- A tree as the output shows it. -/
def treeOutput (wishes : Wishes) (forest : Forest) (root : NodeId) : String :=
  if wishes.positions then line (Text.joinWith "\n" (forest.spannedLines root))
    else forest.outline root

/-- What a request is answered with: the table, the tokens or the tree, or what is wrong with the
text, in which case the code says so. -/
inductive Answers (parser : Parser) (wishes : Wishes) (text : String) (before : Workspace) :
    Answer → Workspace → Prop
  | table (wished : wishes.table = true) :
      Answers parser wishes text before { output := line parser.table.grid } before
  | tokens {tokens : List Token} {cursor : Cursor} {after : Workspace}
    (unwished : wishes.table = false)
      (wished : wishes.lexing = true)
      (lists : (parser.tokens text false (text.length + 2)).Gives before { tokens, cursor } after) :
      Answers parser wishes text before { output := String.join (tokens.map tokenLine) } after
  | stuckTokens {tokens : List Token} {cursor : Cursor} {failure : Failure} {said : String}
      {between after : Workspace} (unwished : wishes.table = false) (wished : wishes.lexing = true)
      (lists : (parser.tokens text false (text.length + 2)).Gives before
        { tokens, failure := some failure, cursor } between)
      (complains : (complaint parser text failure).Yields between said after) :
      Answers parser wishes text before
        { code := 1, output := String.join (tokens.map tokenLine), complaints := said } after
  | tree {root : NodeId} {after : Workspace} (unwished : wishes.table = false)
      (wished : wishes.lexing = false)
      (parses : (parser.parse text wishes.start).Yields before (.node root) after) :
      Answers parser wishes text before { output := treeOutput wishes after.forest root } after
  | stuck {failure : Failure} {said : String} {between after : Workspace}
    (unwished : wishes.table = false)
      (wished : wishes.lexing = false)
      (fails : (parser.parse text wishes.start).run.Gives before (.error failure) between)
      (complains : (complaint parser text failure).Yields between said after) :
      Answers parser wishes text before { code := 1, complaints := said } after

/-- How a request can go without an answer: a lexer that is needed cannot be prepared, or the answer
to the text is no tree, since a rule that leads to the end of the parse is replaced by its only
child. -/
inductive Escapes (parser : Parser) (wishes : Wishes) (text : String) (before : Workspace) :
    Failure → Prop
  | unprepared {lexer : Lexer} {failure : Failure} (unwished : wishes.table = false)
      (needed : lexer ∈ if wishes.lexing then [parser.whole] else parser.source.reader.lexers)
      (fails : lexer.vocabulary.get.1 = .error failure) : Escapes parser wishes text before failure
  | unwrapped {session : Session} {value : Value} {after : Workspace}
    (unwished : wishes.table = false)
      (wished : wishes.lexing = false)
      (starts : parser.start (some text) wishes.start = .ok session)
      (parses : (parser.parse text wishes.start).Yields before value after)
      (isNoTree : value.isNode = false) (unwraps : parser.MayUnwrap session.ending) :
      Escapes parser wishes text before (.fault .missingPart)

theorem code_of_answers {wishes : Wishes} {text : String} {reply : Answer}
    (answers : Answers parser wishes text before reply after) :
    reply.code = 0 ∨ reply.code = 1 := by
  cases answers with
  | table | tokens | tree => exact .inl rfl
  | stuckTokens | stuck => exact .inr rfl

/-- A failure is complained about, or it is not about the text and goes through. -/
theorem exists_complaint (text : String) {failure : Failure}
    (blames : failure.isStuck = true → failure.position?.isSome = true ∧ ∃ accepted later,
      (parser.acceptable failure).Gives before (.ok accepted) later) :
    (∃ said after, (complaint parser text failure).Yields before said after) ∨
      failure.isStuck = false ∧
        (complaint parser text failure).run.Gives before (.error failure) before := by
  have shows (stuck : failure.isStuck = true) : ∃ said after, (do
      let acceptable ← ExceptT.mk (parser.acceptable failure)
      let context ← Run.lift (failure.context text)
      return line (Unicode.trimEnd (failure.message acceptable)) ++ context : Run
      String).Yields before
        said after := by
    rcases blames stuck with ⟨placed, accepted, later, gives⟩
    rcases Option.isSome_iff_exists.mp placed with ⟨position, place⟩
    have context : failure.context text = .ok (Text.context text position 40) := by
      rw [Failure.context, place]
    exact ⟨_, later, Run.yields_bind.mpr ⟨accepted, later, gives, Run.yields_bind.mpr
      ⟨_, later, Run.yields_lift.mpr ⟨context, rfl⟩,
        Run.yields_pure.mpr ⟨rfl, rfl⟩⟩⟩⟩
  cases failure with
  | stuckText | stuckToken => exact .inl (shows rfl)
  | configuration | grammar | lexical | dedent | visit =>
      exact .inl ⟨_, before, Run.yields_pure.mpr ⟨rfl, rfl⟩⟩
  | _ => exact .inr ⟨rfl, rfl⟩

/-- How some answering ends: with an answer, or without one for a reason. -/
def Ends (parser : Parser) (wishes : Wishes) (text : String) (before : Workspace)
    (answering : Run Answer) :
    Prop :=
  (∃ reply after, Answers parser wishes text before reply after ∧
    answering.run.Gives before (.ok reply) after) ∨
  ∃ failure after, Escapes parser wishes text before failure ∧
    answering.run.Gives before (.error failure) after

variable {wishes : Wishes} {text : String}

/-- The tokens of a text are listed as far as it has any. -/
theorem lexAnswer_ends (handless : parser.Handless) (unwished : wishes.table = false)
    (wished : wishes.lexing = true) (before : Workspace) :
    Ends parser wishes text before (lexAnswer parser text) := by
  rcases Lexer.exists_supplies handless.whole.consuming before (.ofText text) (Nat.zero_le _) with
    ⟨tokens, failure?, short, supplies⟩
  have enough : tokens.length < text.length + 2 := by
    have length : (Cursor.ofText text).text.size = text.length := by
      simp [Cursor.ofText, String.length_toList]
    omega
  rcases TokenSource.drain_of_supplies supplies {} _ enough with ⟨cursor, between, drains⟩
  have lists : (parser.tokens text false (text.length + 2)).Gives before
      { tokens, failure := failure?, cursor } between := by
    simp only [Parser.tokens, handless.steady.plain]
    exact drains
  unfold Ends lexAnswer
  simp only [Run.run_work_bind, lists.bind_iff]
  cases failure? with
  | none => exact .inl ⟨_, _, .tokens unwished wished lists, Run.yields_pure.mpr ⟨rfl, rfl⟩⟩
  | some failure =>
      have ways := Lexer.supplies_fails handless.whole.consuming handless.whole.silent supplies rfl
      have blames : failure.isStuck = true → failure.position?.isSome = true ∧
          ∃ accepted later,
          (parser.acceptable failure).Gives between (.ok accepted) later := by
        intro stuck
        rcases ways with ⟨blamed, rfl⟩ | unprepared
        · exact ⟨rfl, [], between, rfl⟩
        · rw [handless.whole.prepared failure unprepared] at stuck
          cases stuck
      rcases exists_complaint text blames with ⟨said, after, complains⟩ | ⟨aside, fails⟩
      · exact .inl ⟨_, _, .stuckTokens unwished wished lists complains,
          Run.yields_bind.mpr ⟨said, after, complains, Run.yields_pure.mpr ⟨rfl, rfl⟩⟩⟩
      · refine .inr ⟨failure, between,
          .unprepared unwished (by simp [wished]) (ways.resolve_left ?_),
          Run.gives_run_bind.mpr (.inl ⟨failure, fails, rfl⟩)⟩
        rintro ⟨blamed, rfl⟩
        cases aside

/-- The tree of a text is shown, or what is wrong with the text. -/
theorem parseAnswer_ends (dependable : parser.Dependable) (handless : parser.Handless)
    (unwished : wishes.table = false) (wished : wishes.lexing = false) (before : Workspace) :
    Ends parser wishes text before (parseAnswer parser text wishes) := by
  rcases ran : StateT.run (m := Id) (parser.parse text wishes.start).run before with
    ⟨answer, between⟩
  have parsed : (parser.parse text wishes.start).run.Gives before answer between := ran
  unfold Ends parseAnswer
  simp only [ExceptT.run_bind_lift, parsed.bind_iff]
  rcases handless.starts (some text) wishes.start with ⟨session, started⟩ | ⟨fault, refused⟩
  · rcases handless.parse_ends dependable started parsed with ⟨ends, accepts⟩
    cases answer with
    | ok value =>
        cases value with
        | node root =>
            refine .inl ⟨_, between, .tree unwished wished parsed, ?_⟩
            unfold treeOutput
            dsimp only
            split
            · exact Run.yields_bind.mpr ⟨_, between, Run.yields_look.mpr ⟨rfl, rfl⟩,
                Run.yields_pure.mpr ⟨rfl, rfl⟩⟩
            · exact Run.yields_bind.mpr ⟨_, between, Run.yields_look.mpr ⟨rfl, rfl⟩,
                Run.yields_pure.mpr ⟨rfl, rfl⟩⟩
        | _ => exact .inr ⟨_, between, .unwrapped unwished wished started parsed rfl
            (ends.resolve_left Bool.false_ne_true), rfl⟩
    | error failure =>
        have blames (stuck : failure.isStuck = true) : failure.position?.isSome = true ∧
            ∃ accepted later, (parser.acceptable failure).Gives between (.ok accepted) later := by
          refine ⟨?_, accepts failure rfl stuck between⟩
          rcases ends with ⟨_, placed⟩ | ⟨lexer, member, unprepared⟩
          · exact placed
          · rw [(handless.steady.lexers lexer member).prepared failure unprepared] at stuck
            cases stuck
        rcases exists_complaint text blames with ⟨said, after, complains⟩ | ⟨aside, fails⟩
        · exact .inl ⟨_, _, .stuck unwished wished parsed complains,
            Run.yields_bind.mpr ⟨said, after, complains, Run.yields_pure.mpr ⟨rfl, rfl⟩⟩⟩
        · rcases ends with ⟨stuck, _⟩ | ⟨lexer, member, unprepared⟩
          · rw [aside] at stuck
            cases stuck
          · exact .inr ⟨failure, between,
              .unprepared unwished (by simpa [wished] using member) unprepared,
              Run.gives_run_bind.mpr (.inl ⟨failure, fails, rfl⟩)⟩
  · have failed : (parser.parse text wishes.start).run.Gives before
        (.error (.configuration fault)) before := by
      rw [Parser.parse, refused]
      rfl
    cases (parsed.unique failed).1
    exact .inl ⟨_, between, .stuck unwished wished parsed
      (Run.yields_pure.mpr ⟨rfl, rfl⟩), rfl⟩

/-- What is done about a request once its grammar has been opened. -/
def serve (parser : Parser) (wishes : Wishes) (text : String) : Run Answer :=
  if wishes.table then return { output := line parser.table.grid }
  else if wishes.lexing then lexAnswer parser text
  else parseAnswer parser text wishes

theorem serve_ends (dependable : parser.Dependable) (handless : parser.Handless)
    (before : Workspace) :
    Ends parser wishes text before (serve parser wishes text) := by
  unfold serve
  cases unwished : wishes.table with
  | true => exact .inl ⟨_, before, .table unwished, rfl⟩
  | false =>
      cases wished : wishes.lexing with
      | true => exact lexAnswer_ends handless unwished wished before
      | false => exact parseAnswer_ends dependable handless unwished wished before

/-! ## Requests -/

theorem answer_of_respond {input : String} {reply : Except Failure Answer}
    (responds : (respond request source input).run.Gives
      { journal := { threshold := some (threshold request.wishes.verbosity) } } reply after) :
    answer request source input = reply.map fun reply =>
      { reply with complaints := journalShown after.journal ++ reply.complaints } := by
  unfold answer
  dsimp only
  rw [show (respond request source input).run _ = _ from responds]
  cases reply <;> rfl

/-- A request is answered if its grammar can be opened and keeps its promises: with the table, the
tokens or the tree of the text and code 0, or with what is wrong with the text and code 1. There are
two exceptions. A lexer that is needed may turn out to be impossible to prepare, and a parse may end
in something that is not a tree, since a rule that leads to its end is replaced by its only child:
then there is nothing to show, and the command fails. -/
theorem answers_or_escapes {request : Request} {source : Except Unreadable String} (input : String)
    {parser : Parser} {opened : Workspace}
    (opens : (openGrammar request source).Yields
      { journal := { threshold := some (threshold request.wishes.verbosity) } } (.ok parser) opened)
    (dependable : parser.Dependable) :
    (∃ reply after, Answers parser request.wishes (textOf request input) opened reply after ∧
      (reply.code = 0 ∨ reply.code = 1) ∧
      answer request source input =
        .ok { reply with complaints := journalShown after.journal ++ reply.complaints }) ∨
    ∃ failure, Escapes parser request.wishes (textOf request input) opened failure ∧
      answer request source input = .error failure := by
  rcases exists_load_of_openGrammar opens with ⟨_, data, _, _, loaded⟩
  rcases Parser.exists_make_of_load loaded with ⟨_, _, _, _, _, _, made, bare⟩
  have handless := Parser.handless_of_make made bare dependable.consuming
  have responds {reply : Except Failure Answer} {after : Workspace}
      (gives : (serve parser request.wishes (textOf request input)).run.Gives opened reply after) :
      (respond request source input).run.Gives
        { journal := { threshold := some (threshold request.wishes.verbosity) } } reply after :=
    Run.gives_run_bind.mpr (.inr ⟨_, opened, opens, gives⟩)
  rcases serve_ends dependable handless opened with
    ⟨reply, after, answers, gives⟩ | ⟨failure, after, escapes, gives⟩
  · exact .inl ⟨reply, after, answers, code_of_answers answers,
      answer_of_respond (responds gives)⟩
  · exact .inr ⟨failure, escapes, answer_of_respond (responds gives)⟩

/-! ## A letter that takes the place of its tree -/

section Single

open Lalr.Parser

/-- A text is an A, whose tree may be replaced by the A. -/
def singleRule (unwraps : Bool) : Rule := { onlyRule with options := { expandSingle := unwraps } }

/-- The table of this rule. -/
def singleTable (unwraps : Bool) : Table State where
  rows := [
    (.number 0, [("A", .shift (.number 1)), ("start", .shift (.number 2))]),
    (.number 1, [("$END", .reduce (singleRule unwraps))]),
    (.number 2, [])]
  starts := [("start", .number 0)]
  ends := [("start", .number 2)]

/-- The rule and its table as they are stored, with a terminal for the letter. -/
def singleGrammar (unwraps : Bool) : Data :=
  .record [
    ("data", .record [
      ("parser", .record [("lexer_conf", .record savedLexer), ("parser", savedTable)]),
      ("rules", .list [.record [("@", .int 1)]]),
      ("options", .record [("start", .list [.text "start"]), ("g_regex_flags", .int 2)])]),
    ("memo", .record [
      ("0", typed "TerminalDef" [("name", .text "A"), ("priority", .int 0),
        ("pattern", typed "PatternRE" [("value", .text "a"), ("_width", .list [.int 1, .int 1])])]),
      ("1", typed "Rule" [("origin", typed "NonTerminal" [("name", .text "start")]),
        ("expansion", .list [typed "Terminal" [("name", .text "A")]]),
        ("options", typed "RuleOptions" [("expand1", .bool unwraps)])])])]

theorem proper_singleGrammar (unwraps : Bool) : (singleGrammar unwraps).Proper := by
  simp [singleGrammar, savedLexer, savedTable, typed]

theorem singleTable_closed (unwraps : Bool) : (singleTable unwraps).Closed (.number 0) := by
  have proper : (singleTable unwraps).Proper "start" (.number 0) (.number 2) :=
    Table.proper_of_isProper (by cases unwraps <;> decide)
  exact { proper.toCoherent with
    start_row := rfl
    target_row := proper.target_row
    not_moves_end := proper.not_moves_end }

theorem singleTable_reduces {unwraps : Bool} {state : State} {kind : String} {rule : Rule}
    (reduces : (singleTable unwraps).Reduces state kind rule) :
    state = .number 1 ∧ rule = singleRule unwraps := by
  have listed : (singleTable unwraps).reductions = [(.number 1, singleRule unwraps)] := rfl
  have member := Table.mem_reductions reduces
  rw [listed, List.mem_singleton] at member
  exact Prod.mk.inj member

/-- There is one reduction, and it leads to a state without any. -/
theorem singleTable_ends (unwraps : Bool) (kind : String) (ending : Option State)
    (states : List State) :
    ¬(singleTable unwraps).Diverges kind ending states := by
  intro endless
  rcases Option.isSome_iff_exists.mp (endless 2) with ⟨_, reached⟩
  rcases Option.bind_eq_some_iff.mp reached with ⟨next, first, reached⟩
  rcases Option.bind_eq_some_iff.mp reached with ⟨_, second, _⟩
  rcases Table.round?_eq_some_iff.mp first with ⟨rule, target, move, found, _, rfl⟩
  rcases Table.round?_eq_some_iff.mp second with ⟨_, _, again, _⟩
  rcases Table.move_eq_reduce move with ⟨_, _, reduces⟩
  rcases Table.move_eq_reduce again with ⟨_, head, reduces'⟩
  rcases Table.exists_of_target found with ⟨_, _, moves⟩
  cases head
  rcases singleTable_reduces reduces with ⟨_, rfl⟩
  rcases singleTable_reduces reduces' with ⟨rfl, _⟩
  have member := Table.mem_entries moves
  rw [show (singleTable unwraps).entries =
    [(.number 0, "A", .number 1), (.number 0, "start", .number 2)] from rfl] at member
  simp [singleRule, onlyRule] at member

/-- Whether all scanners of a parser can be seen to be there and to take up text. -/
def seenConsuming (parser : Parser) : Bool :=
  (parser.whole :: parser.source.reader.lexers).all fun lexer =>
    match lexer.vocabulary.get.1 with
    | .ok vocabulary =>
        vocabulary.scanner.alternations.all fun alternation => alternation.regex.consumes
    | .error _ => false

theorem consuming_of_seenConsuming {parser : Parser} (seen : seenConsuming parser = true) :
    ∀ lexer ∈ parser.whole :: parser.source.reader.lexers,
      lexer.Consuming ∧ ∃ vocabulary, lexer.vocabulary.get.1 = .ok vocabulary := by
  intro lexer member
  have each := List.all_eq_true.mp seen lexer member
  cases prepared : lexer.vocabulary.get.1 with
  | error failure =>
      rw [prepared] at each
      cases each
  | ok vocabulary =>
      rw [prepared] at each
      refine ⟨fun vocabulary' prepared' => ?_, vocabulary, rfl⟩
      cases prepared.symm.trans prepared'
      exact Scanner.consuming_of_consumes (List.all_eq_true.mp each)

/-- The file of the grammar. -/
def singleFile (unwraps : Bool) : String := Data.json .spaced (singleGrammar unwraps)

/-- The request to parse a letter. -/
def singleRequest : Request := { wishes := {}, grammar := "single.json", words := ["a"] }

/-- What the request changes in the grammar. -/
def singleChanges : List (String × Setting) := [("propagate_positions", .data (.bool false))]

/-- The workspace that the request begins with. -/
def quiet : Workspace := { journal := { threshold := some (threshold 0) } }

theorem single_opens {unwraps : Bool} {parser : Parser} {opened : Workspace}
    (loads : (load (singleGrammar unwraps) singleChanges).Yields quiet parser opened) :
    (openGrammar singleRequest (.ok (singleFile unwraps))).Yields quiet (.ok parser) opened := by
  have read : Data.ofJson? (singleFile unwraps) = some (singleGrammar unwraps) :=
    Data.ofJson?_json Data.Spacing.separates_spaced (proper_singleGrammar unwraps)
  have isRecord : (singleGrammar unwraps).isRecord = true := rfl
  have ran : StateT.run (m := Id) (load (singleGrammar unwraps)
      [("propagate_positions", .data (.bool singleRequest.wishes.positions))]).run quiet =
        (.ok parser, opened) := loads
  have opens := run_openGrammar read isRecord ran
  exact opens

/-- A parser of this rule and its table keeps the promises if its terminals take up text. -/
theorem dependable_of_single {unwraps : Bool} {parser : Parser}
    (rules : parser.rules = [singleRule unwraps]) (table : parser.table = singleTable unwraps)
    (consuming : ∀ lexer ∈ parser.whole :: parser.source.reader.lexers, lexer.Consuming) :
    parser.Dependable := by
  have unspliced (name : String) : ¬parser.Splices name := by
    rintro ⟨rule, member, symbol, within, _, spliced⟩
    rw [rules, List.mem_singleton] at member
    cases member
    cases List.mem_singleton.mp within
    cases spliced
  constructor
  case closed =>
    intro text symbol session started
    unfold Parser.start at started
    rcases bind_eq_ok.mp started with ⟨name, _, started⟩
    split at started
    next known _ =>
      cases started
      rw [table] at known ⊢
      cases List.mem_singleton.mp (mem_of_assoc? known)
      exact singleTable_closed unwraps
    next => cases started
  case listed =>
    intro rule hasRule
    rw [table] at hasRule
    rcases hasRule with ⟨_, _, reduces⟩
    rw [(singleTable_reduces reduces).2, rules]
    exact ⟨_, List.mem_singleton_self _, Rule.same_refl _⟩
  case inlined => exact fun _ splices => absurd splices (unspliced _)
  case apart => exact fun _ => unspliced _
  case finite => exact fun _ _ => table ▸ singleTable_ends unwraps _ _ _
  case consuming => exact consuming

/-- What loading the grammar can be seen to come to. -/
def seenSingle (unwraps : Bool) : Bool :=
  match ((load (singleGrammar unwraps) singleChanges).run.run quiet).1 with
  | .ok parser =>
    parser.rules == [singleRule unwraps] && parser.table.rows == (singleTable unwraps).rows &&
      parser.table.starts == (singleTable unwraps).starts &&
      parser.table.ends == (singleTable unwraps).ends && seenConsuming parser
  | .error _ => false

/-- The grammar can be loaded, and it keeps its promises. -/
theorem exists_single (unwraps : Bool) : ∃ parser opened,
    (load (singleGrammar unwraps) singleChanges).Yields quiet parser opened ∧
      parser.Dependable ∧ parser.rules = [singleRule unwraps] ∧
      ∀ lexer ∈ parser.whole :: parser.source.reader.lexers,
        ∃ vocabulary, lexer.vocabulary.get.1 = .ok vocabulary := by
  have seen : seenSingle unwraps = true := by cases unwraps <;> decide +kernel
  unfold seenSingle at seen
  cases ran : StateT.run (m := Id) (load (singleGrammar unwraps) singleChanges).run quiet with
  | mk answer opened =>
      rw [ran] at seen
      cases answer with
      | error failure => cases seen
      | ok parser =>
          simp only [Bool.and_eq_true, beq_iff_eq] at seen
          rcases seen with ⟨⟨⟨⟨rules, rows⟩, starts⟩, ends⟩, lexers⟩
          have table : parser.table = singleTable unwraps := by
            rcases same : parser.table with ⟨_, _, _⟩
            rw [same] at rows starts ends
            cases rows
            cases starts
            cases ends
            rfl
          have each := consuming_of_seenConsuming lexers
          have consuming := fun lexer member => (each lexer member).1
          exact ⟨parser, opened, ran, dependable_of_single rules table consuming, rules,
            fun lexer member => (each lexer member).2⟩

/-- A letter whose tree stays is answered. -/
theorem answers_letter : ∃ reply, (reply.code = 0 ∨ reply.code = 1) ∧
    answer singleRequest (.ok (singleFile false)) "" = .ok reply := by
  rcases exists_single false with ⟨parser, opened, loads, dependable, rules, prepared⟩
  rcases answers_or_escapes "" (single_opens loads) dependable with
    ⟨reply, after, _, code, answered⟩ | ⟨failure, escapes, _⟩
  · refine ⟨_, ?_, answered⟩
    exact code
  · cases escapes with
    | unprepared _ needed fails =>
        rcases prepared _ (List.mem_cons_of_mem _ needed) with ⟨vocabulary, fine⟩
        cases fine.symm.trans fails
    | unwrapped _ _ _ _ _ unwraps =>
        rcases unwraps with ⟨rule, member, ⟨expands, _⟩, _⟩
        rw [rules, List.mem_singleton] at member
        cases member
        cases expands

/-- Whether the request can be seen to fail since there is no tree to show. -/
def seenUnanswered : Bool :=
  match ((load (singleGrammar true) singleChanges >>= fun parser =>
    serve parser singleRequest.wishes "a").run.run quiet).1 with
  | .error (.fault .missingPart) => true
  | _ => false

/-- A letter that takes the place of its tree is not answered, although the grammar keeps its
promises. -/
theorem letter_unanswered : ∃ parser opened,
    (openGrammar singleRequest (.ok (singleFile true))).Yields quiet (.ok parser) opened ∧
      parser.Dependable ∧
      answer singleRequest (.ok (singleFile true)) "" = .error (.fault .missingPart) := by
  rcases exists_single true with ⟨parser, opened, loads, dependable, _⟩
  have opens := single_opens loads
  refine ⟨parser, opened, opens, dependable, ?_⟩
  have seen : seenUnanswered = true := by decide +kernel
  unfold seenUnanswered at seen
  rw [Run.run_bind, show StateT.run (m := Id)
    (load (singleGrammar true) singleChanges).run quiet = _
    from loads] at seen
  dsimp only at seen
  cases served : StateT.run (m := Id) (serve parser singleRequest.wishes "a").run opened with
  | mk reply after =>
      rw [served] at seen
      have gives : (serve parser singleRequest.wishes "a").run.Gives opened reply after := served
      have responds : (respond singleRequest (.ok (singleFile true)) "").run.Gives
          quiet reply after :=
        Run.gives_run_bind.mpr (.inr ⟨_, opened, opens, gives⟩)
      rw [answer_of_respond responds]
      split at seen
      next same =>
        cases same
        rfl
      next => cases seen

end Single

end CommandLine

end Lalr
