import Lalr.Proofs.Lexer.Sameness
import Lalr.Proofs.Parser.Accepting
import Lalr.Proofs.Parser.Deeds
import Lalr.Proofs.Parser.Driving
import Lalr.Proofs.Shaping.Inlining

/-!
# Parsing with a transformer

A parser that is made with a transformer calls its handlers while it parses. What comes out
is what the transformer makes of the finished tree, as long as nothing is discarded and the
tokens of the tree are treated as they are while the text is parsed: a handler that discards
a tree leaves a mark in the tree above, where a finished tree loses a child.
-/

namespace Lalr

/-! ## Derivations whose symbols fit -/

/-- Whether all symbols that are spliced in a derivation have trees that may be. -/
inductive Derivation.Fits (rules : List Rule) : Derivation → Prop
  | leaf (token : Token) : Fits rules (.leaf token)
  | node {rule : Rule} {parts : List Derivation}
      (here : ∀ own, rules.find? (fun entry => entry.same rule) = some own →
        own.FitsParts rules parts)
      (below : ∀ part ∈ parts, part.Fits rules) : Fits rules (.node rule parts)

namespace Reading

variable {reading : Reading}

mutual

/-- A derivation that looks like something has symbols that fit. -/
theorem Evaluates.fits : {part : Derivation} → {result : Appearance} →
    reading.Evaluates part result → part.Fits reading.rules
  | _, _, .leaf _ => .leaf _
  | _, _, .node found _ _ fits all _ =>
      .node (fun _ found' => Option.some.inj (found.symm.trans found') ▸ fits) all.fits
  | _, _, .loose ruleless _ all =>
      .node (fun _ found => by simp [ruleless] at found) all.fits

theorem AllEvaluate.fits : {parts : List Derivation} → {seen : List Appearance} →
    reading.AllEvaluate parts seen → ∀ part ∈ parts, part.Fits reading.rules
  | _, _, .nil => by simp
  | _, _, .cons first rest => List.forall_mem_cons.mpr ⟨first.fits, rest.fits⟩

end

/-- The reading of a parse without a transformer is sound too. -/
theorem Sound.of_bare (sound : reading.Sound) : reading.bare.Sound where
  pure := ⟨sound.pure.off, fun none => by cases none⟩
  helpers rule listed spliced :=
    ⟨(sound.helpers rule listed spliced).1, fun none => by cases none⟩

/-- The tokens of some trees that a rule chooses are those of the trees that it chooses from. -/
theorem tokens_chosen {rule : Rule} {placeholders : Bool} {shape : Shape} {seen : List Appearance}
    {allowed : List Token} (shaped : Shape.ofRule rule placeholders = .ok shape)
    (length : rule.expansion.length = seen.length)
    (each : ∀ item ∈ seen, item.tokens ⊆ allowed) :
    Appearance.tokensOf (shape.chosen (.plain .nothing) Appearance.children seen) ⊆ allowed := by
  have inner {item : Appearance} (within : item.tokens ⊆ allowed) :
      List.Forall₂ (fun child _ => Appearance.tokens child ⊆ allowed) item.children
        item.children := by
    refine List.forall₂_same.mpr fun child listed => ?_
    cases item with
    | node label span variant children =>
        exact fun token below => within (Appearance.mem_tokensOf.mpr ⟨child, listed, below⟩)
    | plain value => cases listed
    | sequence items => cases listed
  have related : List.Forall₂ (fun item _ => Appearance.tokens item ⊆ allowed)
      (shape.chosen (.plain .nothing) Appearance.children seen)
      (shape.chosen (.plain .nothing) Appearance.children seen) := by
    refine Shape.chosen_related shaped (by simp [Appearance.tokens]) rfl length ?_
    intro index symbol item item' _ here here'
    rcases Option.some.inj (here.symm.trans here') with rfl
    have within := each item (List.mem_of_getElem? here)
    split
    · exact inner within
    · exact within
  intro token member
  rcases Appearance.mem_tokensOf.mp member with ⟨item, listed, below⟩
  exact List.forall₂_same.mp related item listed below

mutual

/-- The tokens of a tree without handlers are tokens of the derivation. -/
theorem Evaluates.tokens_subset (plain : reading.growth.transformer = none) :
    {part : Derivation} → {result : Appearance} → reading.Evaluates part result →
      result.tokens ⊆ part.leaves
  | .leaf token, result, .leaf made => by
      have tokenless : reading.tokens = [] := by
        simp [Reading.tokens, Reductions.handlersFor, plain]
      have same : .plain (.token token) = result := by
        simpa [tokenSeen, tokenless, Transformer.answerTo, assoc?] using made
      rcases same with rfl
      simp [Appearance.tokens, Derivation.leaves]
  | _, _, .node _ shaped length _ all made => by
      have inside := all.tokens_subset plain
      have chosen := tokens_chosen shaped (length.trans (allEvaluate_iff.mp all).length_eq) inside
      unfold Growth.ruleSeen Growth.nodeSeen at made
      simp only [plain] at made
      split at made
      next only _ same =>
        rcases Option.some.inj made with rfl
        rw [same] at chosen
        simpa [Appearance.tokensOf, Derivation.leaves] using chosen
      next =>
        rcases Option.some.inj made with rfl
        simpa [Appearance.tokens, Derivation.leaves] using chosen
  | _, _, .loose .. => by simp [Appearance.tokens]

theorem AllEvaluate.tokens_subset (plain : reading.growth.transformer = none) :
    {parts : List Derivation} → {seen : List Appearance} → reading.AllEvaluate parts seen →
      ∀ item ∈ seen, item.tokens ⊆ Derivation.leavesOf parts
  | _, _, .nil => by simp
  | _, _, .cons first rest => by
      have head := first.tokens_subset plain
      have tail := rest.tokens_subset plain
      refine List.forall_mem_cons.mpr ⟨?_, fun item listed => ?_⟩
      · exact List.subset_append_of_subset_left _ head
      · exact List.subset_append_of_subset_right _ (tail item listed)

end

end Reading

namespace Parser

variable {terminals : List Terminal} {rules : List Rule} {table : Table State}
  {ignored : List Data} {options : Options} {parser : Parser} {made made' : Workspace}
  {meaning : String → List Appearance → Option Appearance}

/-- How a parser reads derivations. -/
def reading (options : Options) (transformer : Option Transformer)
    (meaning : String → List Appearance → Option Appearance) (rules : List Rule)
    (terminals : List Terminal) : Reading where
  growth := growth options transformer
  meaning
  rules
  kinds := terminals.map Terminal.name

/-- A parser that has been made has the reductions that are made for its rules. -/
theorem reductions_of_make {transformer : Option Transformer}
    (make : (make terminals rules table ignored options).Yields made parser made')
    (given : options.transformer = .ok transformer) :
    parser.table = table ∧ parser.options = options ∧
      Reductions.make (growth options transformer) rules (terminals.map Terminal.name) =
        .ok parser.reductions := by
  rcases assemble_of_make make with ⟨count, assembled, -⟩
  simp only [assemble, given, usable, Except.mapError, bind_eq_ok] at assembled
  rcases assembled with
    ⟨_, _, _, ⟨⟩, reductions, reduced, _, _, _, _, _, _, _, _, _, _, assembled⟩
  cases assembled
  exact ⟨rfl, rfl, reduced⟩

variable {reading : Reading} {base : Forest}

/-- Where no lexer changes anything, pulling a token leaves what stands for derivations. -/
theorem stands_pulled {stream stream' : TokenStream} {session met : Session}
    {before after : Workspace} {answer : Except Failure (Option Token)} {values : List Value}
    {parts : List Derivation} {seen : List Appearance} (sparing : parser.source.Sparing)
    (stands : reading.Stands base before.forest values parts seen)
    (gives : (parser.pull stream session).Gives before (answer, stream', met) after) :
    reading.Stands base after.forest values parts seen := by
  rcases stands with ⟨all, ids, entries, nodup, fresh, preserves⟩
  have spares := (pull_spares sparing gives).2
  exact ⟨all, ids, entries.keep spares (List.nil_subset _)
    (List.disjoint_nil_right _) fun _ => .inl, nodup, fresh, preserves.trans spares⟩

/-- The values on the stack of a parse without a transformer look like their derivations. -/
theorem tracking_bare (base : Forest) (sound : reading.Sound)
    (plain : reading.growth.transformer = none)
    (make : Reductions.make reading.growth reading.rules reading.kinds = .ok parser.reductions)
    (sparing : parser.source.Sparing) {starting : State}
    (coherent : parser.table.Coherent starting) :
    parser.Tracking starting fun workspace values parts =>
      ∃ seen, reading.Stands base workspace.forest values parts seen where
  tracks := {
    trace := id
    shift := by
      rintro token before after values value parts ⟨seen, stands⟩ shifted
      rcases stands.shift sound make shifted with ⟨result, stands⟩
      exact ⟨_, stands⟩
    reduce := by
      rintro token rule before after values value parts rest _ names ⟨seen, stands⟩ reduced
      have length : rule.expansion.length = parts.length := by
        simpa using congrArg List.length names.symm
      exact stands.reduce sound make length (fun found shaped yields =>
        stands.fits plain found shaped names yields) reduced }
  coherent
  pulls := fun ⟨seen, stands⟩ gives => ⟨seen, stands_pulled sparing stands gives⟩

/-- The values on the stack of a parse with a transformer look like their derivations, if the
symbols of these fit. -/
theorem tracking_fitting (base : Forest) (sound : reading.Sound)
    (make : Reductions.make reading.growth reading.rules reading.kinds = .ok parser.reductions)
    (sparing : parser.source.Sparing) {starting : State}
    (coherent : parser.table.Coherent starting) :
    parser.Tracking starting fun workspace values parts =>
      (∀ part ∈ parts, part.Fits reading.rules) →
        ∃ seen, reading.Stands base workspace.forest values parts seen where
  tracks := {
    trace := id
    shift := by
      intro token before after values value parts known shifted fits
      rcases known (List.forall_mem_cons.mp fits).2 with ⟨seen, stands⟩
      rcases stands.shift sound make shifted with ⟨result, stands⟩
      exact ⟨_, stands⟩
    reduce := by
      intro token rule before after values value parts rest _ names known reduced fits
      rcases List.forall_mem_cons.mp fits with ⟨first, others⟩
      cases first with
      | node here below =>
          rcases known (List.forall_mem_append.mpr
              ⟨fun part listed => below part (List.mem_reverse.mp listed), others⟩) with
            ⟨seen, stands⟩
          have length : rule.expansion.length = parts.length := by
            simpa using congrArg List.length names.symm
          exact stands.reduce sound make length (fun found _ _ => here _ found) reduced }
  coherent
  pulls := fun known gives fits =>
    (known fits).imp fun _ stands => stands_pulled sparing stands gives

/-- What a parse starts with. -/
theorem stack_of_start {text symbol : Option String} {session : Session}
    (started : parser.start text symbol = .ok session) :
    ∃ name starting, assoc? parser.table.starts name = some starting ∧
      session.stack = ⟨[starting], []⟩ := by
  unfold start at started
  rcases bind_eq_ok.mp started with ⟨name, _, started⟩
  split at started
  next starting _ found _ =>
    cases started
    exact ⟨name, starting, found, rfl⟩
  next => cases started

/-- The value on top of a stack looks like its derivation. -/
theorem appears_of_stands {forest : Forest} {values : List Value} {value : Value}
    {part : Derivation} {more : List Derivation} {seen : List Appearance}
    (stands : reading.Stands base forest values (part :: more) seen)
    (top : values.head? = some value) :
    ∃ appearance, reading.Evaluates part appearance ∧ forest.Appears [] value appearance := by
  rcases stands with ⟨all, ids, entries, -⟩
  cases all with
  | cons evaluates rest =>
      cases entries with
      | cons entry others =>
          rcases Option.some.inj top with rfl
          exact ⟨_, evaluates, entry.appears⟩

/-- Callbacks that do nothing but to answer change nothing. -/
theorem sparing_of_pure {callback : TokenHandler} (pure : TokenHandler.Pure callback) :
    TokenHandler.Sparing callback := by
  intro token
  rcases pure token with ⟨answer, answers⟩
  rw [answers, Run.run_lift]
  exact Work.sparing_iff.mpr (.pure _)

/-- Parsers that are made of the same parts with pure callbacks for tokens find the same tokens,
whatever transformers they are made with. -/
theorem sideBySide_of_make {parser' : Parser} {second second' : Workspace}
    {transformer : Except Fault (Option Transformer)}
    (make : (make terminals rules table ignored options).Yields made parser made')
    (make' : (Parser.make terminals rules table ignored { options with transformer }).Yields second
      parser' second')
    (pure : ∀ callbacks, options.callbacks = .ok callbacks → ∀ kind callback,
      assoc? callbacks kind = some callback → TokenHandler.Pure callback) :
    parser.SideBySide parser' := by
  rcases assemble_of_make make with ⟨count, assembled, -⟩
  rcases assemble_of_make make' with ⟨count', assembled', -⟩
  simp only [assemble, bind_eq_ok] at assembled assembled'
  rcases assembled with
    ⟨_, _, _, _, _, _, callbacks, called, flags, flagged, ⟨source, number⟩, sourced, _, _,
      _, _, assembled⟩
  rcases assembled' with
    ⟨_, _, _, _, _, _, callbacks', called', flags', flagged', ⟨source', number'⟩, sourced', _,
      _, _, _, assembled'⟩
  cases assembled
  cases assembled'
  rcases Except.ok.inj (called.symm.trans called') with rfl
  rcases (show flags = flags' from Except.ok.inj (flagged.symm.trans flagged')) with rfl
  have given : options.callbacks = .ok callbacks := by
    cases given : options.callbacks with
    | error fault =>
        rw [given] at called
        cases called
    | ok callbacks =>
        rw [given] at called
        cases called
        rfl
  rcases same_of_makeSource rfl rfl sourced sourced' with ⟨readers, postLexers⟩
  exact ⟨rfl, TokenSource.pull_same readers (pure_of_makeSource sourced (pure callbacks given))
    postLexers⟩

/-- Two parses side by side build the same derivation. -/
theorem Comes.exists_derivation {parser' : Parser} {starting : State}
    {known known' : Workspace → List Value → List Derivation → Prop}
    {session final final' : Session} {before between before' after : Workspace}
    {tokens tokens' : List Token} {value value' : Value} (beside : parser.SideBySide parser')
    (tracking : parser.Tracking starting known) (tracking' : parser'.Tracking starting known')
    (comes : parser.Comes {} none session before tokens value final between)
    (comes' : parser'.Comes {} none session before' tokens' value' final' after)
    (stack : session.stack = ⟨[starting], []⟩) (fresh : known before [] [])
    (fresh' : known' before' [] []) :
    ∃ part more, known between final.stack.values (part :: more) ∧
      known' after final'.stack.values (part :: more) ∧
      final.stack.values.head? = some value ∧ final'.stack.values.head? = some value' ∧
      Derivation.leavesOf (part :: more).reverse = tokens' := by
  have tracked : Tracked parser.table starting known before session.stack [] := by
    rw [stack]
    exact ⟨.start, by simp, fresh⟩
  have tracked' : Tracked parser'.table starting known' before' session.stack [] := by
    rw [stack]
    exact ⟨.start, by simp, fresh'⟩
  rcases comes.together beside tracking tracking' ⟨rfl, rfl, rfl⟩ comes' tracked tracked' with
    rfl
  rcases comes.tracked tracking tracked with ⟨part, more, tracked, top, _, built, leaves⟩
  rcases comes'.tracked tracking' tracked' with ⟨part', more', tracked', top', _, built', _⟩
  rw [beside.table, built] at built'
  rcases Prod.mk.inj built' with ⟨same, moved⟩
  rcases Outcome.finished.inj same with rfl
  rcases (List.cons.inj (Stack.mk.inj moved).2).2 with rfl
  exact ⟨part, more, tracked.known, tracked'.known, top, top',
    by simpa [Derivation.leavesOf] using leaves⟩

/-- To parse with a transformer is to parse without it and to transform the finished tree. This
holds for every table that is coherent, all rules and options without positions, and every
transformer that makes new trees with pure handlers, as long as nothing is discarded, no tree that
may be spliced is handled or left out, and each token that has a handler is handled in both ways. -/
theorem parse_inlined {transformer : Transformer} {plainParser : Parser}
    {second second' before between after : Workspace} {text : String} {symbol : Option String}
    {value value' : Value}
    (make : (make terminals rules table ignored options).Yields made parser made')
    (makePlain : (Parser.make terminals rules table ignored
      { options with transformer := .ok none }).Yields second plainParser second')
    (given : options.transformer = .ok (some transformer)) (off : options.propagation = .off)
    (callbacks : ∀ callbacks, options.callbacks = .ok callbacks → ∀ kind callback,
      assoc? callbacks kind = some callback → TokenHandler.Pure callback)
    (coherent : ∀ name starting, assoc? table.starts name = some starting →
      table.Coherent starting)
    (pure : transformer.Pure meaning) (keeps : transformer.Keeps meaning)
    (helpers : ∀ rule ∈ rules, Shape.isSpliced (.nonterminal rule.origin) = true →
      (rule.options.expandSingle && !rule.hasByname) = false ∧
        transformer.handlerFor? rule.label = none)
    (parsed : (parser.parse text symbol).Yields before value between)
    (parsedPlain : (plainParser.parse text symbol).Yields between value' after)
    (treats : ∀ tokens, plainParser.Consumes text symbol between tokens → ∀ token ∈ tokens,
      (transformer.handlerFor? token.kind).isSome →
        transformer.visitsTokens = true ∧ token.kind ∈ terminals.map Terminal.name) :
    (transformer.transform value').Adds after fun forest result =>
      forest.same value result = true := by
  let reading := reading options (some transformer) meaning rules terminals
  have sound : reading.Sound := by
    refine ⟨⟨off, fun same => Option.some.inj same ▸ pure⟩, fun rule listed spliced => ?_⟩
    rcases helpers rule listed spliced with ⟨whole, bare⟩
    exact ⟨whole, fun same => Option.some.inj same ▸ bare⟩
  rcases reductions_of_make make given with ⟨tables, sameOptions, reductions⟩
  rcases reductions_of_make makePlain rfl with ⟨tablesPlain, sameOptionsPlain, reductionsPlain⟩
  have sparing := sparing_of_make make fun found known kind callback listed =>
    sparing_of_pure (callbacks found known kind callback listed)
  have sparingPlain := sparing_of_make makePlain fun found known kind callback listed =>
    sparing_of_pure (callbacks found known kind callback listed)
  have beside := sideBySide_of_make make makePlain callbacks
  rcases comes_of_parse parsed with ⟨session, tokens, final, started, comes⟩
  rcases comes_of_parse parsedPlain with ⟨session', tokens', final', started', comes'⟩
  have sameStart : plainParser.start (some text) symbol = parser.start (some text) symbol := by
    unfold start chooseStart
    rw [sameOptions, sameOptionsPlain, tables, tablesPlain]
  rcases Except.ok.inj (started.symm.trans (sameStart.symm.trans started')) with rfl
  rcases stack_of_start started with ⟨name, starting, listed, stack⟩
  have known := coherent name starting (tables ▸ listed)
  have tracking := tracking_fitting before.forest sound reductions sparing (tables ▸ known)
  have trackingPlain := tracking_bare between.forest sound.of_bare rfl reductionsPlain
    sparingPlain (tablesPlain ▸ known)
  have start (reading : Reading) (forest : Forest) : reading.Stands forest forest [] [] [] :=
    ⟨.nil, [], .nil, List.nodup_nil, by simp, .refl _ _⟩
  rcases comes.exists_derivation beside
      tracking trackingPlain comes' stack (fun _ => ⟨[], start ..⟩) ⟨[], start ..⟩ with
    ⟨part, more, fitting, ⟨seen, stands⟩, top, top', leaves⟩
  rcases fitting stands.1.fits with ⟨seen', stands'⟩
  rcases appears_of_stands stands top' with ⟨plain, evaluates, appears⟩
  rcases appears_of_stands stands' top with ⟨result, evaluates', appears'⟩
  have inlines := evaluates.inlines sound rfl keeps evaluates'
  have inside : plain.tokens ⊆ tokens' := by
    refine List.Subset.trans (evaluates.tokens_subset rfl) ?_
    rw [← leaves]
    simp [Derivation.leavesOf]
  rcases inlines.becomes fun token member => by
    have handles := treats tokens' ⟨_, _, _, _, started', comes'⟩ token (inside member)
    rw [Bool.eq_iff_iff, Bool.and_eq_true, Reading.handled_eq rfl]
    exact ⟨fun ⟨_, handled⟩ => ⟨(handles handled).2, handled⟩,
      fun ⟨_, handled⟩ => ⟨(handles handled).1, handled⟩⟩ with
    ⟨turns, present⟩
  rcases pure.transform_adds appears turns present with ⟨made, last, yields, kept, looks⟩
  refine ⟨made, last, yields, kept, ?_⟩
  have stays := stands.2.choose_spec.2.2.2
  exact ((appears'.stay stays).stay kept).same_eq_true looks

/-! ## A tree with an item in it -/

/-- A text is an item, and an item is an A. -/
def itemRules : List Rule :=
  [{ origin := "start", expansion := [.nonterminal "item"] },
    { origin := "item", expansion := [.terminal "A" false] }]

/-- The table of these rules. -/
def itemTable : Table State where
  rows := [
    (.number 0, [("A", .shift (.number 1)), ("item", .shift (.number 2)),
      ("start", .shift (.number 3))]),
    (.number 1, [("$END", .reduce itemRules[1])]),
    (.number 2, [("$END", .reduce itemRules[0])]),
    (.number 3, [])]
  starts := [("start", .number 0)]
  ends := [("start", .number 3)]

/-- A transformer with one handler. -/
def singleTransformer (name : String) (call : List Value → Run Value) : Transformer where
  handlers := [(name, { call })]

/-- Answers with a text, whatever the children are. -/
def spell : List Value → Run Value := fun _ => pure (.text "x")

/-- Discards a tree. -/
def leaveOut : List Value → Run Value := fun _ => pure .discard

def itemLexer (number : Nat) : Lexer := { lettersLexer number with callbacks := [] }

/-- The parser of these rules with a transformer or without one. -/
def itemParser (transformer : Option Transformer) : Parser where
  options := { contextual := false, transformer := .ok transformer }
  terminals := letters
  rules := itemRules
  ignored := []
  table := itemTable
  reductions := (Reductions.make { transformer } itemRules ["A", "B"]).toOption.getD { rules := [] }
  source := { reader := .basic (itemLexer 0) }
  whole := itemLexer 1
  wholeKeeping := itemLexer 2

theorem make_itemLexer (number : Nat) :
    Lexer.make number (settings letters [] [] {}) = .ok (itemLexer number) := by
  rcases Lexer.make_eq_ok.mp (make_lettersLexer number) with ⟨checked, ordered, went, same⟩
  refine Lexer.make_eq_ok.mpr ⟨checked, ordered, went, ?_⟩
  rw [itemLexer, same]
  rfl

/-- A parser whose tokens are letters can be made if its reductions can. -/
theorem make_letters {rules : List Rule} {transformer : Option Transformer}
    {propagation : Propagation} {reductions : Reductions} {table : Table State}
    (checked : checkStart table (.text "start") = .ok ())
    (made : Reductions.make { transformer, propagation } rules ["A", "B"] = .ok reductions) :
    ∃ after, (make letters rules table []
      { contextual := false, transformer := .ok transformer, propagation }).Yields {}
        { options := { contextual := false, transformer := .ok transformer, propagation }
          terminals := letters, rules, ignored := [], table, reductions
          source := { reader := .basic (itemLexer 0) }
          whole := itemLexer 1, wholeKeeping := itemLexer 2 } after := by
  refine make_of_basic rfl ?_ rfl made rfl rfl rfl make_itemLexer
  show (do checkStart table (.text "start"); pure ()) = .ok ()
  rw [checked]
  rfl

theorem itemParser_made {transformer : Option Transformer} {reductions : Reductions}
    (made : Reductions.make { transformer } itemRules ["A", "B"] = .ok reductions) :
    ∃ after, (make letters itemRules itemTable [] (itemParser transformer).options).Yields {}
      (itemParser transformer) after := by
  have same : (itemParser transformer).reductions = reductions := by
    simp only [itemParser, made]
    rfl
  have made := make_letters (show checkStart itemTable (.text "start") = .ok () by rfl) made
  rw [← same] at made
  exact made

theorem itemTable_coherent (name : String) (starting : State)
    (listed : assoc? itemTable.starts name = some starting) : itemTable.Coherent starting := by
  have same : name = "start" ∧ starting = .number 0 := by
    simpa [itemTable] using mem_of_assoc? listed
  rcases same with ⟨rfl, rfl⟩
  have proper : itemTable.Proper "start" (.number 0) (.number 3) :=
    Table.proper_of_isProper (by decide)
  exact proper.toCoherent

/-- Parses a text with one parser and then with another, transforms what comes out of the second,
and says whether it is the same as what comes out of the first. -/
def comparing (parser plainParser : Parser) (transformer : Transformer) (text : String) :
    Run Bool := do
  let value ← parser.parse text none
  let value' ← plainParser.parse text none
  let result ← transformer.transform value'
  Work.look fun forest => forest.same value result

/-- What comes of a comparison comes of its parts. -/
theorem exists_of_comparing {parser plainParser : Parser}
    {transformer : Transformer} {text : String} {same : Bool} {before : Workspace}
    (compared : ((comparing parser plainParser transformer text).run.run before).1 = .ok same) :
    ∃ value between value' after result last,
      (parser.parse text none).Yields before value between ∧
      (plainParser.parse text none).Yields between value' after ∧
      (transformer.transform value').Yields after result last ∧
      last.forest.same value result = same := by
  have yields : (comparing parser plainParser transformer text).Yields before same
      ((comparing parser plainParser transformer text).run.run before).2 := Prod.ext compared rfl
  simp only [comparing, Run.yields_bind, Run.yields_look] at yields
  rcases yields with
    ⟨value, between, parsed, value', after, parsedPlain, result, last, transformed, rfl, -⟩
  exact ⟨value, between, value', after, result, last, parsed, parsedPlain, transformed, rfl⟩

/-- A transformer with one handler, which always answers in the same way, is pure. -/
theorem singleTransformer_pure {name : String} {call : List Value → Run Value} {answer : Value}
    (answers : call = fun _ => pure answer) (plain : answer.isPlain = true) :
    (singleTransformer name call).Pure fun _ _ => some (.plain answer) where
  copying := rfl
  fallback := rfl
  tokenFallback := rfl
  means listed := by
    have handler := mem_of_assoc? listed
    simp only [singleTransformer, List.mem_singleton, Prod.mk.injEq] at handler
    rw [handler.2, answers]
    intro before own values seen _ _
    exact ⟨answer, before, Run.yields_pure.mpr ⟨rfl, rfl⟩, .refl _ _, .plain plain⟩
  spanless listed := by
    have handler := mem_of_assoc? listed
    simp only [singleTransformer, List.mem_singleton, Prod.mk.injEq] at handler
    rw [handler.2]
    rfl

set_option maxRecDepth 2000 in
/-- A tree whose token is replaced while it is built is the one whose token is replaced
afterwards. -/
theorem parse_inlined_letter :
    ∃ value between value' after,
      ((itemParser (singleTransformer "A" spell)).parse "a" none).Yields {} value between ∧
      ((itemParser none).parse "a" none).Yields between value' after ∧
      ((singleTransformer "A" spell).transform value').Adds after fun forest result =>
        forest.same value result = true := by
  have compared : ((comparing (itemParser (singleTransformer "A" spell)) (itemParser none)
      (singleTransformer "A" spell) "a").run.run {}).1 = .ok true :=
    eq_ok_of_toOption (by decide +kernel)
  rcases exists_of_comparing compared with
    ⟨value, between, value', after, _, _, parsed, parsedPlain, _⟩
  rcases itemParser_made
      (show Reductions.make { transformer := singleTransformer "A" spell } itemRules ["A", "B"] =
        .ok _ by rfl) with
    ⟨made, make⟩
  rcases itemParser_made
      (show Reductions.make { transformer := none } itemRules ["A", "B"] = .ok _ by rfl) with
    ⟨madePlain, makePlain⟩
  refine ⟨value, between, value', after, parsed, parsedPlain,
    parse_inlined make makePlain rfl rfl ?_ itemTable_coherent
    (singleTransformer_pure rfl rfl) ?_ ?_ parsed parsedPlain ?_⟩
  · rintro _ ⟨⟩ kind callback found
    cases found
  · rintro name seen - ⟨⟩
  · simp [itemRules, Shape.isSpliced]
  · rintro tokens - token - handled
    rcases Option.isSome_iff_exists.mp handled with ⟨handler, listed⟩
    have kind := mem_of_assoc? listed
    simp only [singleTransformer, List.mem_singleton, Prod.mk.injEq] at kind
    rw [kind.1]
    exact ⟨rfl, by decide⟩

set_option maxRecDepth 2000 in
/-- A handler that discards an item leaves a mark in a tree that is being built, and takes the item
out of a tree that has been built. -/
theorem parse_discarding_differs :
    ∃ made madePlain value between value' after result last,
      (make letters itemRules itemTable []
        (itemParser (singleTransformer "item" leaveOut)).options).Yields {}
          (itemParser (singleTransformer "item" leaveOut)) made ∧
      (make letters itemRules itemTable [] (itemParser none).options).Yields {} (itemParser none)
        madePlain ∧
      itemTable.Coherent (.number 0) ∧
      (singleTransformer "item" leaveOut).Pure (fun _ _ => some (.plain .discard)) ∧
      ((itemParser (singleTransformer "item" leaveOut)).parse "a" none).Yields {} value between ∧
      ((itemParser none).parse "a" none).Yields between value' after ∧
      ((singleTransformer "item" leaveOut).transform value').Yields after result last ∧
      last.forest.same value result = false := by
  have compared : ((comparing (itemParser (singleTransformer "item" leaveOut)) (itemParser none)
      (singleTransformer "item" leaveOut) "a").run.run {}).1 = .ok false :=
    eq_ok_of_toOption (by decide +kernel)
  rcases exists_of_comparing compared with ⟨value, between, value', after, result, last, ran⟩
  rcases itemParser_made
      (show Reductions.make { transformer := singleTransformer "item" leaveOut }
        itemRules ["A", "B"] =
        .ok _ by rfl) with
    ⟨made, make⟩
  rcases itemParser_made
      (show Reductions.make { transformer := none } itemRules ["A", "B"] = .ok _ by rfl) with
    ⟨madePlain, makePlain⟩
  exact ⟨made, madePlain, value, between, value', after, result, last, make, makePlain,
    itemTable_coherent "start" _ rfl, singleTransformer_pure rfl rfl, ran⟩

end Parser

end Lalr
