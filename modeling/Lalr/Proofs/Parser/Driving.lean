import Lalr.Proofs.Lexer.Making
import Lalr.Proofs.Parser.Feeding
import Lalr.Proofs.Parser.Making

/-!
# One machine with four drivers

A text can be parsed at one go, or it can be parsed in steps: taking tokens from the
text, feeding the rest of it and then the end of the input, taking the parse up again
where it was left, or feeding tokens by hand. All of these come to the same, as long
as no token of the text is one that ends the input, which a driver that feeds tokens
by hand takes at its word.
-/

namespace Lalr.Parser

variable {terminals : List Terminal} {rules : List Rule} {table : Table State}
  {ignored : List Data} {options : Options} {parser : Parser} {made made' before : Workspace}

theorem postLexer_of_make
    (make : (make terminals rules table ignored options).Yields made parser made')
    (plain : options.postLexer = .ok none) : parser.source.postLexer = none := by
  rcases assemble_of_make make with ⟨count, assembled, _⟩
  simp only [assemble, bind_eq_ok] at assembled
  rcases assembled with
    ⟨_, _, _, _, _, _, _, _, _, _, ⟨source, _⟩, sourced, _, _, _, _, assembled⟩
  cases assembled
  simp only [makeSource, plain, usable] at sourced
  split at sourced
  · rcases bind_eq_ok.mp sourced with ⟨_, chosen, sourced⟩
    cases chosen
    rcases bind_eq_ok.mp sourced with ⟨_, _, sourced⟩
    cases sourced
    rfl
  · rcases bind_eq_ok.mp sourced with ⟨_, _, sourced⟩
    rcases bind_eq_ok.mp sourced with ⟨_, chosen, sourced⟩
    cases chosen
    cases sourced
    rfl

/-- A parser with a basic lexer cuts texts with the same lexer, under another number, where no parse
is going on. -/
theorem whole_of_make
    (make : (make terminals rules table ignored options).Yields made parser made')
    (basic : options.contextual = false) :
    ∃ lexer callbacks number, parser.source.reader = .basic lexer ∧
      parser.whole = { lexer with number } ∧ options.callbacks = .ok callbacks ∧
      lexer.callbacks = callbacks := by
  rcases assemble_of_make make with ⟨count, assembled, _⟩
  simp only [assemble, bind_eq_ok] at assembled
  rcases assembled with
    ⟨_, _, _, _, _, _, callbacks, called, _, _, ⟨source, _⟩, sourced, whole, whole_made,
      _, _, assembled⟩
  cases assembled
  simp only [makeSource, basic, Bool.false_eq_true, if_false] at sourced
  rcases bind_eq_ok.mp sourced with ⟨lexer, lexer_made, sourced⟩
  rcases bind_eq_ok.mp sourced with ⟨_, _, sourced⟩
  cases sourced
  have same := (Lexer.make_number lexer_made _).symm.trans whole_made
  cases same
  rw [Lexer.make_eq] at lexer_made
  rcases bind_eq_ok.mp lexer_made with ⟨_, _, lexer_made⟩
  cases ordered : Lexer.inOrder (settings terminals ignored callbacks _).terminals with
  | error failure =>
      rw [ordered] at lexer_made
      cases lexer_made
  | ok terminals =>
      rw [ordered] at lexer_made
      cases lexer_made
      refine ⟨_, callbacks, _, rfl, rfl, ?_, rfl⟩
      cases given : options.callbacks with
      | error fault =>
          rw [given] at called
          cases called
      | ok callbacks =>
          rw [given] at called
          cases called
          rfl

theorem discreet_of_make
    (make : (make terminals rules table ignored options).Yields made parser made')
    (discreet : ∀ transformer, options.transformer = .ok (some transformer) →
      transformer.Discreet) :
    parser.reductions.Discreet := by
  rcases assemble_of_make make with ⟨count, assembled, _⟩
  simp only [assemble, bind_eq_ok] at assembled
  rcases assembled with
    ⟨_, _, transformer, transformed, reductions, reduced, _, _, _, _, _, _, _, _,
      _, _, assembled⟩
  cases assembled
  refine Reductions.discreet_of_make (fun transformer' given => discreet transformer' ?_) reduced
  rcases (show transformer = some transformer' from given) with rfl
  cases transformer : options.transformer with
  | error fault =>
      rw [transformer] at transformed
      cases transformed
  | ok transformer =>
      rw [transformer] at transformed
      cases transformed
      rfl

/-- Stepping through a parse equals running it. A parse of a text that is left after any number of
tokens, and is then finished by feeding the rest of the text and a token that ends the input, or by
taking it up again, comes to the value that the parse comes to, in the same workspace, and otherwise
fails about the same thing at the same place. So does, with a basic lexer whose callbacks are pure,
a parse that is fed the tokens of the text by hand. -/
theorem parse_driven
    (make : (make terminals rules table ignored options).Yields made parser made')
    (plain : options.postLexer = .ok none) {text : String} {symbol : Option String}
    (inside : ∀ tokens, parser.Takes text symbol before tokens →
      ∀ token ∈ tokens, token.kind ≠ Token.endKind) :
    (∀ value after, (parser.parse text symbol).Yields before value after →
      (∀ count way, (parser.parseStepwise count way text symbol).Yields before value after) ∧
      (options.contextual = false →
        (∀ callbacks, options.callbacks = .ok callbacks → ∀ kind callback,
          assoc? callbacks kind = some callback → TokenHandler.Pure callback) →
        (∀ transformer, options.transformer = .ok (some transformer) → transformer.Discreet) →
        ∀ limit, 4 * (text.length + 2) < limit →
          ∃ after', (parser.parseByHand limit text symbol).Yields before value after' ∧
            after.Alike after')) ∧
    ∀ failure after, failure.isStuck = true →
      (parser.parse text symbol).run.Gives before (.error failure) after →
      ∀ count way, ∃ failure' after',
        (parser.parseStepwise count way text symbol).run.Gives before (.error failure') after' ∧
        failure'.kind? = failure.kind? ∧ failure'.position? = failure.position? ∧
        failure'.SameBlame failure := by
  have plain := postLexer_of_make make plain
  have stepped {answer : Except Failure Value} {after : Workspace}
      (parsed : (parser.parse text symbol).run.Gives before answer after)
      (goesOn : answer ≠ .error (.fault .brokenPromise)) (count : Nat) (way : Finish) :=
    parseStepwise_reports plain inside goesOn parsed
      (Work.gives (parser.parseStepwise count way text symbol).run before)
  constructor
  · intro value after parsed
    constructor
    · intro count way
      have reports := stepped parsed (by simp) count way
      have gives := Work.gives (parser.parseStepwise count way text symbol).run before
      generalize (StateT.run (m := Id) (parser.parseStepwise count way text symbol).run before).1 =
        answer at reports gives
      cases answer with
      | error failure => exact reports.elim
      | ok value' =>
          rcases reports with ⟨rfl, same⟩
          rw [← same] at gives
          exact gives
    · intro basic pure discreet limit enough
      rcases whole_of_make make basic with
        ⟨lexer, callbacks, number, reader, whole, given, called⟩
      have pure : lexer.Pure := by
        unfold Lexer.Pure
        rw [called]
        exact pure callbacks given
      exact parseByHand_yields plain reader whole pure
        (discreet_of_make make discreet) enough inside
        parsed
  · intro failure after stuck parsed count way
    have goesOn : Except.error failure ≠
        (.error (.fault .brokenPromise) : Except Failure Value) := by
      rintro ⟨⟩
      cases stuck
    have reports := stepped parsed goesOn count way
    have gives := Work.gives (parser.parseStepwise count way text symbol).run before
    generalize (StateT.run (m := Id) (parser.parseStepwise count way text symbol).run before).1 =
      answer at reports gives
    cases answer with
    | ok value => exact reports.elim
    | error failure' => exact ⟨failure', _, gives, reports.kind, reports.position, reports⟩

/-! ## A parser whose callback ends the input -/

/-- The terminals of two letters. -/
def letters : List Terminal :=
  [{ name := "A", pattern := { kind := .expression, value := "a" } },
    { name := "B", pattern := { kind := .expression, value := "b" } }]

/-- Makes a token one that ends the input. -/
def endInput : TokenHandler := fun token => pure (.token { token with kind := Token.endKind })

/-- A text is an A. -/
def onlyRule : Rule := { origin := "start", expansion := [.terminal "A" false] }

def onlyTable : Table State where
  rows := [
    (.number 0, [("A", .shift (.number 1)), ("start", .shift (.number 2))]),
    (.number 1, [("$END", .reduce onlyRule)]),
    (.number 2, [])]
  starts := [("start", .number 0)]
  ends := [("start", .number 2)]

def lettersVocabulary : Vocabulary where
  scanner := {
    terminals := letters
    whole := false
    alternations :=
      [⟨.choice (.group 1 (.char 'a')) (.group 2 (.char 'b')), {}, [("A", 1), ("B", 2)]⟩] }
  absorbed := []

def lettersLexer (number : Nat) : Lexer where
  number
  terminals := letters
  ignored := []
  breaking := []
  callbacks := [("B", endInput)]
  vocabulary := Thunk.mk fun _ => (.ok lettersVocabulary, [])

/-- A parser that takes a B for the end of the input. -/
def lettersParser : Parser where
  options := { contextual := false, callbacks := .ok [("B", endInput)] }
  terminals := letters
  rules := [onlyRule]
  ignored := []
  table := onlyTable
  reductions := (Reductions.make {} [onlyRule] ["A", "B"]).toOption.getD { rules := [] }
  source := { reader := .basic (lettersLexer 0) }
  whole := lettersLexer 1
  wholeKeeping := lettersLexer 2

theorem make_lettersLexer (number : Nat) :
    Lexer.make number (settings letters [] [("B", endInput)] {}) = .ok (lettersLexer number) := by
  have ordered : Lexer.inOrder letters = .ok letters :=
    Lexer.inOrder_of_isOrdered (by decide +kernel)
  have breaking : Lexer.breakingNames letters = [] := by decide +kernel
  have prepared : (Vocabulary.prepare letters {}).run.run [] = (.ok lettersVocabulary, []) :=
    Prod.ext (eq_ok_of_toOption (by decide +kernel)) (by decide +kernel)
  have checked : Lexer.check (settings letters [] [("B", endInput)] {}) = .ok () :=
    eq_ok_of_toOption (by decide +kernel)
  exact Lexer.make_of_prepared checked ordered breaking prepared

theorem lettersParser_made : ∃ after,
    (make letters [onlyRule] onlyTable [] lettersParser.options).Yields {} lettersParser after :=
  make_of_basic rfl rfl rfl (by rfl) rfl rfl rfl make_lettersLexer

theorem endInput_pure : TokenHandler.Pure endInput :=
  fun token => ⟨.ok (.token { token with kind := Token.endKind }), rfl⟩

/-- Whether the input was at fault, and at which position, if a run has failed, and with what kind
of failure. -/
def blame (ran : Except Failure Value × Workspace) :
    Option (Bool × Option String × Option Nat) :=
  match ran.1 with
  | .ok _ => none
  | .error failure => some (failure.isStuck, failure.kind?, failure.position?)

theorem blame_eq_none {run : Run Value}
    (fine : blame (StateT.run (m := Id) run.run before) = none) :
    ∃ value after, run.Yields before value after := by
  rcases ran : StateT.run (m := Id) run.run before with ⟨failure | value, after⟩
  · rw [ran] at fine
    cases fine
  · exact ⟨value, after, ran⟩

theorem blame_eq_some {run : Run Value} {stuck : Bool} {kind : Option String}
    {position : Option Nat}
    (failed : blame (StateT.run (m := Id) run.run before) = some (stuck, kind, position)) :
    ∃ failure after, run.run.Gives before (.error failure) after ∧ failure.isStuck = stuck ∧
      failure.kind? = kind ∧ failure.position? = position := by
  rcases ran : StateT.run (m := Id) run.run before with ⟨failure | value, after⟩
  · rw [ran] at failed
    cases failed
    exact ⟨failure, after, ran, rfl, rfl, rfl⟩
  · rw [ran] at failed
    cases failed

/-- The text of one A comes to the same tree, however it is parsed. -/
theorem parse_driven_letter :
    ∃ value after, (lettersParser.parse "a" none).Yields {} value after ∧
      (∀ count way, (lettersParser.parseStepwise count way "a" none).Yields {} value after) ∧
      ∃ after', (lettersParser.parseByHand 13 "a" none).Yields {} value after' ∧
        after.Alike after' := by
  rcases lettersParser_made with ⟨made, make⟩
  have started : lettersParser.start (some "a") none = .ok {
      stack := { states := [.number 0], values := [] }
      starting := .number 0
      ending := .number 2
      cursor := some (.ofText "a") } := by rfl
  have inside : ∀ tokens, lettersParser.Takes "a" none {} tokens →
      ∀ token ∈ tokens, token.kind ≠ Token.endKind := by
    let letter : Token :=
      { kind := "A", text := "a", place := ⟨some 0, some 1, some 1, some 1, some 2, some 1⟩ }
    refine inside_of_takenWithin started
      (show lettersParser.takenWithin 2 _ _ = some [letter] by decide +kernel) ?_
    simp only [List.mem_singleton, forall_eq]
    decide
  have pure : ∀ callbacks, lettersParser.options.callbacks = .ok callbacks → ∀ kind callback,
      assoc? callbacks kind = some callback → TokenHandler.Pure callback := by
    rintro _ ⟨⟩ kind callback found
    have member := mem_of_assoc? found
    simp only [List.mem_singleton, Prod.mk.injEq] at member
    exact member.2 ▸ endInput_pure
  rcases blame_eq_none
      (show blame (StateT.run (m := Id) (lettersParser.parse "a" none).run {}) = none
        by decide +kernel) with
    ⟨value, after, parsed⟩
  rcases (parse_driven make rfl inside).1 value after parsed with ⟨stepped, byHand⟩
  exact ⟨value, after, parsed, stepped,
    byHand rfl pure (fun _ given => by cases given) 13 (by decide)⟩

/-- The text ABA is at fault at the B for a parse, and at the second A for one that feeds tokens by
hand: for it the input has ended before. -/
theorem parseStepwise_differs :
    ∃ made failure after failure' after',
      (make letters [onlyRule] onlyTable [] lettersParser.options).Yields {} lettersParser made ∧
      lettersParser.options.postLexer = .ok none ∧ TokenHandler.Pure endInput ∧
      (lettersParser.parse "aba" none).run.Gives {} (.error failure) after ∧
      failure.isStuck = true ∧
      (lettersParser.parseStepwise 0 .exhausting "aba" none).run.Gives {}
        (.error failure') after' ∧
      failure'.kind? ≠ failure.kind? ∧ failure'.position? ≠ failure.position? ∧
      ¬failure'.SameBlame failure := by
  rcases lettersParser_made with ⟨made, make⟩
  rcases blame_eq_some
      (show blame (StateT.run (m := Id) (lettersParser.parse "aba" none).run {}) =
        some (true, some "UnexpectedEOF", some 1) by decide +kernel) with
    ⟨failure, after, parsed, stuck, kind, position⟩
  rcases blame_eq_some
      (show blame (StateT.run (m := Id)
          (lettersParser.parseStepwise 0 .exhausting "aba" none).run {}) =
        some (true, some "UnexpectedToken", some 2) by decide +kernel) with
    ⟨failure', after', stepped, _, kind', position'⟩
  have kinds : failure'.kind? ≠ failure.kind? := by
    rw [kind, kind']
    decide
  have positions : failure'.position? ≠ failure.position? := by
    rw [position, position']
    decide
  exact ⟨made, failure, after, failure', after', make, rfl, endInput_pure, parsed,
    stuck, stepped, kinds, positions, fun same => kinds same.kind⟩

end Lalr.Parser
