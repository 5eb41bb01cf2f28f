import Lalr.Parser.Session
import Lalr.Proofs.Grammar.Rules
import Lalr.Proofs.Machine.Checking
import Lalr.Proofs.Machine.Tracking
import Lalr.Proofs.Parser.Making
import Lalr.Proofs.Shaping.Reductions

/-!
# Trees of parses

The tree that a parse returns is the shaped derivation of its input. Each reduction
turns the trees of the symbols of its rule into the tree of the rule, and the trees
on the stack never share a sequence of children, so that a tree may give its
sequence away to the tree above it.
-/

namespace Lalr

namespace Parser

variable {parser : Parser} {growth : Growth} {rules : List Rule}

/-- Whether the reductions of a parser are those that are made for some rules. -/
structure Grows (parser : Parser) (growth : Growth) (rules : List Rule) : Prop where
  plain : growth.transformer = none
  tokens : parser.reductions.tokens = []
  entries : List.Forall₂ (fun rule entry => entry.1 = rule ∧
    Reductions.IsFor growth rule entry.2) rules parser.reductions.rules
  nonempty : rules ≠ []

theorem Grows.reduce_yields (grows : parser.Grows growth rules) {rule : Rule} {values : List Value}
    {before after : Workspace} {value : Value}
    (yields : (parser.reductions.reduce rule values).Yields before value after) :
    ∃ own reduction, rules.find? (fun entry => entry.same rule) = some own ∧
      Reductions.IsFor growth own reduction ∧ (reduction values).Yields before value after := by
  unfold Reductions.reduce at yields
  cases found : parser.reductions.find? rule with
  | some reduction =>
      rw [found] at yields
      rcases Reductions.find?_eq_some grows.entries found with ⟨own, foundOwn, isFor⟩
      exact ⟨own, reduction, foundOwn, isFor, yields⟩
  | none =>
      have something : parser.reductions.isEmpty = false := by
        have listed : parser.reductions.rules ≠ [] := by
          intro none
          have length := grows.entries.length_eq
          exact grows.nonempty (by simpa [none] using length)
        simp [Reductions.isEmpty, listed]
      simp only [found, something] at yields
      exact absurd yields Run.yields_throw

/-- The values on the stack of a parse show the shaped trees of their derivations, none of which
shares a sequence of children with another. -/
theorem Grows.tracks (grows : parser.Grows growth rules) :
    Tracks parser.table parser.effects fun workspace values parts =>
      ∃ used, workspace.forest.ShowsAll values
        (parts.map (Derivation.shaped rules growth.placeholders)) used ∧ used.Nodup where
  trace := id
  shift := by
    rintro token workspace after values value parts ⟨used, shown, nodup⟩ shifted
    have yields : (parser.reductions.shift token).Yields workspace value after := shifted
    rw [Reductions.shift, grows.tokens] at yields
    rcases Run.yields_pure.mp yields with ⟨rfl, rfl⟩
    exact ⟨_, .cons (.token token) shown, nodup⟩
  reduce := by
    rintro token rule workspace after values value parts rest _ names
      ⟨used, shown, nodup⟩ reduced
    rcases grows.reduce_yields reduced with
      ⟨own, reduction, found, ⟨shape, build, made, built, rfl⟩, yields⟩
    rw [List.map_append, List.map_reverse] at shown
    rcases shown.taken with ⟨usedTop, usedBelow, perm, top, below⟩
    rcases List.nodup_append'.mp (perm.nodup_iff.mpr nodup) with ⟨nodupTop, nodupBelow, apart⟩
    have length : rule.expansion.length = (parts.map
        (Derivation.shaped rules growth.placeholders)).length := by
      simpa using congrArg List.length names.symm
    have ownLength : own.expansion.length = rule.expansion.length :=
      Rule.length_of_same (by simpa using List.find?_some found)
    rw [length] at yields ⊢
    rcases Growth.reduce_shows grows.plain built made top nodupTop
      (ownLength.trans length) yields with
      ⟨usedBy, shows_, nodupBy, inside, keeps⟩
    have stays := below.keep keeps fun _ under above => apart above under
    refine ⟨usedBy ++ usedBelow, ?_, List.nodup_append'.mpr ⟨nodupBy, nodupBelow, ?_⟩⟩
    · rw [List.map_cons, Derivation.shaped, Derivation.shapedOf_eq_map, found]
      exact .cons shows_ stays
    · intro id member under
      rcases inside id member with above | fresh
      · exact apart above under
      · exact Nat.lt_irrefl _ (Nat.lt_of_lt_of_le (below.bound under) fresh)

/-- A parser that has been made without a transformer builds trees by the shapes of its rules. -/
theorem grows_of_make {terminals : List Terminal} {table : Table State} {ignored : List Data}
    {options : Options} {before after : Workspace}
    (made : (make terminals rules table ignored options).Yields before parser after)
    (plain : options.transformer = .ok none) (nonempty : rules ≠ []) :
    parser.table = table ∧ parser.Grows (Parser.growth options none) rules := by
  rcases assemble_of_make made with ⟨count, assembled, -⟩
  simp only [assemble, usable, plain, Except.mapError, bind_eq_ok] at assembled
  rcases assembled with
    ⟨_, _, _, ⟨⟩, reductions, reduced, _, _, _, _, _, _, _, _, _, _, assembled⟩
  cases assembled
  rcases Reductions.make_eq_ok reduced with ⟨entries, tokens⟩
  exact ⟨rfl, rfl, tokens, entries, nonempty⟩

/-- The value of every accepted input shows the shaped derivation of the input, for every coherent
table and every choice of rules and options but a transformer. Where no entry leads back to the
start state, this derivation is one of the whole input. -/
theorem feedAll_shaped {terminals : List Terminal} {table : Table State} {ignored : List Data}
    {options : Options} {before made : Workspace} {start : String} {starting ending : State}
    (make : (make terminals rules table ignored options).Yields before parser made)
    (plain : options.transformer = .ok none) (nonempty : rules ≠ [])
    (coherent : table.Coherent starting)
    (endsAt : ∀ {source symbol}, table.Moves source symbol ending →
      source = starting ∧ symbol = start)
    {granted : Nat → Nat} {tokens : List Token} {last : Token} {workspace after : Workspace}
    {value : Value} {stack : Stack State Value}
    (accepted : (parser.table.feedAll parser.effects granted ending last tokens
      ⟨[starting], []⟩).run workspace = ((.finished value, stack), after)) :
    ∃ (derivation : Derivation) (below : List Derivation) (used : List SequenceId),
      table.feedAll Derivation.effects granted ending last tokens ⟨[starting], []⟩ =
        (.finished derivation, ⟨stack.states, derivation :: below⟩) ∧
      derivation.Valid table.HasRule ∧ derivation.name = start ∧
      Derivation.leavesOf (derivation :: below).reverse = tokens ∧
      ((∀ {source symbol}, ¬table.Moves source symbol starting) → below = []) ∧
      after.forest.Shows value (derivation.shaped rules options.placeholders.holds) used := by
  rcases grows_of_make make plain nonempty with ⟨rfl, grows⟩
  have fresh : Tracked parser.table starting (fun workspace values parts =>
      ∃ used, workspace.forest.ShowsAll values
        (parts.map (Derivation.shaped rules options.placeholders.holds)) used ∧ used.Nodup)
      workspace (⟨[starting], []⟩ : Stack State Value) [] :=
    ⟨.start, by simp, [], .nil, .nil⟩
  rcases grows.tracks.fedAll coherent granted fresh accepted with
    ⟨derivation, below, tracked, top, ended, built, leaves⟩
  rcases tracked.path.symbols_of_ending ended (by simp) endsAt with ⟨rest, names, alone⟩
  have same : derivation.name = start ∧ below.map Derivation.name = rest := by
    simpa using names
  rcases same with ⟨name, rfl⟩
  rcases tracked.known with ⟨used, shown, -⟩
  rcases stack with ⟨states, values⟩
  cases shown with
  | cons shown _ =>
      rcases Option.some.inj top with rfl
      exact ⟨derivation, below, _, built, tracked.valid derivation (by simp), name, leaves,
        fun apart => by simpa using alone apart, shown⟩

/-- Rules for an A and a B with something missing in front, of which the second is spliced. -/
def pairRules : List Rule :=
  [{ origin := "start", expansion := [.terminal "A" false, .nonterminal "_rest"]
     options := { emptyIndices := [true, false, false] } },
    { origin := "_rest", expansion := [.terminal "B" false] }]

/-- The table of these rules. -/
def pairTable : Table State where
  rows := [
    (.number 0, [("A", .shift (.number 1)), ("start", .shift (.number 4))]),
    (.number 1, [("B", .shift (.number 2)), ("_rest", .shift (.number 3))]),
    (.number 2, [("$END", .reduce pairRules[1])]),
    (.number 3, [("$END", .reduce pairRules[0])]),
    (.number 4, [])]
  starts := [("start", .number 0)]
  ends := [("start", .number 4)]

/-- A lexer without terminals, as it is made. -/
def emptyLexer (number : Nat) : Lexer where
  number
  terminals := []
  ignored := []
  breaking := []
  callbacks := []
  vocabulary := Thunk.mk fun _ => (Vocabulary.prepare [] {}).run.run []

/-- The parser of these rules, for tokens that are fed by hand. -/
def pairParser : Parser where
  options := { contextual := false, placeholders := .bool true }
  terminals := []
  rules := pairRules
  ignored := []
  table := pairTable
  reductions := (Reductions.make { placeholders := true } pairRules []).toOption.getD
    { rules := [] }
  source := { reader := .basic (emptyLexer 0) }
  whole := emptyLexer 1
  wholeKeeping := emptyLexer 2

theorem make_emptyLexer (number : Nat) :
    Lexer.make number (settings [] [] [] {}) = .ok (emptyLexer number) := by
  simp only [Lexer.make, settings, Lexer.inOrder, List.mapM_nil, List.mergeSort_nil, pure_bind]
  rfl

theorem pairParser_made : ∃ after,
    (make [] pairRules pairTable [] pairParser.options).Yields {} pairParser after :=
  make_of_basic rfl rfl rfl (by rfl) rfl rfl rfl make_emptyLexer

/-- The text is accepted, and its tree has a placeholder, the A and what was below the second
rule. -/
theorem feedAll_shaped_pair :
    ∃ (value : Value) (forest : Forest) (used : List SequenceId),
      forest.Shows value (.node "start"
        [.nothing, .token { kind := "A", text := "a" }, .token { kind := "B", text := "b" }])
        used := by
  rcases pairParser_made with ⟨made, make⟩
  have proper : pairTable.Proper "start" (.number 0) (.number 4) :=
    Table.proper_of_isProper (by decide)
  rcases accepted : StateT.run
    (pairParser.table.feedAll pairParser.effects (fun height => height + 2)
    (.number 4) (.endOfInput none) [{ kind := "A", text := "a" }, { kind := "B", text := "b" }]
    ⟨[.number 0], []⟩) {} with ⟨⟨outcome, stack⟩, after⟩
  have same : Outcome.finished (.node ⟨1⟩) = outcome := congrArg (fun run => run.1.1) accepted
  rcases same with rfl
  rcases feedAll_shaped make rfl (by decide) proper.toCoherent proper.moves_ending accepted with
    ⟨derivation, below, used, built, -, -, -, -, shown⟩
  have performed : Outcome.finished (.node pairRules[0] [.leaf { kind := "A", text := "a" },
      .node pairRules[1] [.leaf { kind := "B", text := "b" }]]) = Outcome.finished derivation :=
    congrArg Prod.fst built
  rcases Outcome.finished.inj performed with rfl
  exact ⟨_, _, used, shown⟩

end Parser

end Lalr
