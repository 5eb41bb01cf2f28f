import Lalr.Parser.Session
import Lalr.Proofs.Forest.Trees
import Lalr.Proofs.Machine.Agreement
import Lalr.Proofs.Machine.Checking
import Lalr.Proofs.Runs
import Lalr.Proofs.Machine.Tracking

/-!
# Soundness of parsing

With a proper table a parse never looks for a state, an entry or a value that is
not there, and when the end of the input is accepted, the reductions that have
been made are a rightmost derivation of the input. If each reduction builds a tree
of the values it is given, the tree in the end is the tree of this derivation.
-/

namespace Lalr

variable {σ ω ε w : Type} [DecidableEq σ] {table : Table σ} {start : String} {starting : σ}

section Calls

/-- A call of a callback in the course of a parse, with the state of the parse at that time: for a
token that is shifted, or for the values of the symbols of a rule while another token waits. -/
inductive Call (ω w : Type) where
  | shift (token : Token) (state : w)
  | reduce (waiting : Token) (rule : Rule) (values : List ω) (state : w)

namespace Call

/-- The rule that is reduced by, if no token is shifted. -/
def rule? : Call ω w → Option Rule
  | .shift _ _ => none
  | .reduce _ rule _ _ => some rule

/-- Whether a call is for a token of the input, or for a rule of the table with as many values as
the rule has symbols. -/
def Fits (table : Table σ) (input : List Token) : Call ω w → Prop
  | .shift token _ => token ∈ input
  | .reduce waiting rule values _ =>
    waiting ∈ input ∧ table.HasRule rule ∧ values.length = rule.expansion.length

/-- Whether a call comes to a failure. -/
def Raises (effects : Token → Effects (StateM w) σ ω ε) (failure : ε) : Call ω w → Prop
  | .shift token state => ((effects token).shift.run state).1 = .error failure
  | .reduce waiting rule values state =>
    (((effects waiting).reduce rule values).run state).1 = .error failure

end Call

/-- The same effects where the calls of callbacks are noted besides, the last one first. -/
def Effects.noting (effects : Effects (StateM w) σ ω ε) (token : Token) :
    Effects (StateM (w × List (Call ω w))) σ ω ε where
  trace states action := fun (state, calls) =>
    let (done, state) := (effects.trace states action).run state
    (done, state, calls)
  shift := fun (state, calls) =>
    let (answer, after) := effects.shift.run state
    (answer, after, .shift token state :: calls)
  reduce rule values := fun (state, calls) =>
    let (answer, after) := (effects.reduce rule values).run state
    (answer, after, .reduce token rule values state :: calls)
  fault := effects.fault

omit [DecidableEq σ] in
/-- To note the calls changes nothing else about a parse. -/
theorem Effects.noting_agree (effects : Effects (StateM w) σ ω ε) (token : Token) :
    (effects.noting token).Agree (fun noted state => noted.1 = state) Eq effects where
  stop _ := ⟨by rintro ⟨state, calls⟩ _ rfl; exact ⟨rfl, rfl⟩⟩
  trace _ _ _ actions := ⟨by
    rintro ⟨state, calls⟩ _ rfl
    rw [actions.eq]
    exact ⟨rfl, rfl⟩⟩
  shift := ⟨by rintro ⟨state, calls⟩ _ rfl; exact ⟨rfl, rfl⟩⟩
  reduce _ same := ⟨by rintro ⟨state, calls⟩ _ rfl; subst same; exact ⟨rfl, rfl⟩⟩
  fault := rfl

/-- What holds after tokens of an input have been fed to a path: every call that has been made fits,
a failure is what the last of them has come to, and otherwise the states are a path still, with a
value for each of its symbols. -/
structure Table.Kept (table : Table σ) (starting : σ)
    (effects : Token → Effects (StateM w) σ ω ε) (input : List Token)
    (fed : (Outcome ω ε × Stack σ ω) × w × List (Call ω w)) : Prop where
  fits : ∀ call ∈ fed.2.2, call.Fits table input
  stands :
    match fed.1.1 with
    | .failed failure => ∃ call ∈ fed.2.2.head?, call.Raises effects failure
    | _ => ∃ symbols, table.Path starting fed.1.2.states symbols ∧
      fed.1.2.values.length = symbols.length

/-- On a path nothing fails but a callback. Induction on the moves, with the calls that have been
made before general. -/
theorem Table.Proper.feed_kept {ending : σ} (proper : table.Proper start starting ending)
    (effects : Token → Effects (StateM w) σ ω ε) {input : List Token} {token : Token}
    (listed : token ∈ input) (accepting : Option σ)
    (isEnd : accepting.isSome → token.kind = Token.endKind) (fuel : Nat) :
    ∀ (stack : Stack σ ω) {symbols : List String} (state : w) (calls : List (Call ω w)),
      table.Path starting stack.states symbols → stack.values.length = symbols.length →
        (∀ call ∈ calls, call.Fits table input) →
          table.Kept starting effects input
            ((table.feed ((effects token).noting token) token.kind accepting fuel stack).run
              (state, calls)) := by
  induction fuel with
  | zero => exact fun _ _ _ _ path size fits => ⟨fits, _, path, size⟩
  | succ fuel ih =>
      intro stack symbols state calls path size fits
      cases move : table.move stack.states token.kind with
      | lost fault => exact absurd move (proper.move_ne_lost path)
      | rejected expected =>
          rw [feed_of_rejected _ move]
          exact ⟨fits, _, path, size⟩
      | shift target =>
          rcases move_eq_shift move with ⟨top, found, moves⟩
          have going : accepting = none := by
            rcases accepting with _ | ending
            · rfl
            · exact absurd (isEnd rfl ▸ moves) proper.not_moves_end
          let before := (((effects token).trace stack.states (some (.shift target))).run state).2
          have fits : ∀ call ∈ Call.shift token before :: calls, call.Fits table input :=
            List.forall_mem_cons.mpr ⟨listed, fits⟩
          have noted : ((effects token).noting token).shift.run
              ((((effects token).noting token).trace stack.states (some (.shift target))).run
                (state, calls)).2 = (((effects token).shift.run before).1,
                  ((effects token).shift.run before).2, .shift token before :: calls) := rfl
          rw [feed_of_shift _ move going]
          simp only [StateT.run_bind]
          simp only [bind]
          rw [noted]
          rcases shifted : (effects token).shift.run before with ⟨_ | value, after⟩
          · exact ⟨fits, _, rfl, congrArg Prod.fst shifted⟩
          · exact ⟨fits, _, path.extend found moves, congrArg (· + 1) size⟩
      | reduce rule =>
          rcases proper.toCoherent.reduction path move with ⟨rest, target, rfl, found, path⟩
          let before := (((effects token).trace stack.states (some (.reduce rule))).run state).2
          let values := (stack.values.take rule.expansion.length).reverse
          have fits : ∀ call ∈ Call.reduce token rule values before :: calls,
              call.Fits table input :=
            List.forall_mem_cons.mpr
              ⟨⟨listed, hasRule_of_move move, by simp [values, size]⟩, fits⟩
          have left : (stack.values.drop rule.expansion.length).length = rest.length := by
            simp [size]
          have noted : (((effects token).noting token).reduce rule values).run
              ((((effects token).noting token).trace stack.states (some (.reduce rule))).run
                (state, calls)).2 = ((((effects token).reduce rule values).run before).1,
                  (((effects token).reduce rule values).run before).2,
                  .reduce token rule values before :: calls) := rfl
          rw [feed_of_reduce _ move found]
          simp only [StateT.run_bind]
          simp only [bind]
          rw [noted]
          rcases reduced : ((effects token).reduce rule values).run before with
            ⟨_ | value, after⟩
          · exact ⟨fits, _, rfl, congrArg Prod.fst reduced⟩
          · dsimp only
            split
            · exact ⟨fits, _, path, congrArg (· + 1) left⟩
            · exact ih _ _ _ path (congrArg (· + 1) left) fits

/-- While a whole input is fed to a path, nothing fails but a callback. -/
theorem Table.Proper.feedAll_kept {ending : σ} (proper : table.Proper start starting ending)
    (effects : Token → Effects (StateM w) σ ω ε) (granted : Nat → Nat) {last : Token}
    (isEnd : last.kind = Token.endKind) {input : List Token} (tokens : List Token)
    (listed : ∀ token ∈ tokens ++ [last], token ∈ input) :
    ∀ (stack : Stack σ ω) {symbols : List String} (state : w) (calls : List (Call ω w)),
      table.Path starting stack.states symbols → stack.values.length = symbols.length →
        (∀ call ∈ calls, call.Fits table input) →
          table.Kept starting effects input
            ((table.feedAll (fun token => (effects token).noting token) granted ending last tokens
              stack).run (state, calls)) := by
  induction tokens with
  | nil =>
      intro stack symbols state calls path size fits
      exact proper.feed_kept effects (listed last (by simp)) _ (fun _ => isEnd) _ _ _ _ path
        size fits
  | cons token tokens ih =>
      intro stack symbols state calls path size fits
      have kept := proper.feed_kept effects (listed token (by simp)) none (by simp)
        (granted stack.states.length) stack state calls path size fits
      simp only [Table.feedAll, StateT.run_bind]
      simp only [bind]
      rcases run : StateT.run (table.feed ((effects token).noting token) token.kind none
        (granted stack.states.length) stack) (state, calls) with
        ⟨⟨outcome, next⟩, between, calls'⟩
      rw [run] at kept
      cases outcome with
      | shifted =>
          rcases kept.stands with ⟨symbols, path, size⟩
          exact ih (fun token member => listed token (List.mem_cons_of_mem _ member)) _ _ _ path
            size kept.fits
      | finished | rejected | failed | endless => exact kept

theorem Tracks.anything (effects : Token → Effects (StateM w) σ ω ε) :
    Tracks table effects fun _ _ _ => True where
  trace := id
  shift _ _ := trivial
  reduce _ _ _ _ := trivial

/-- The rules of the calls are the rules of the derivations on the stack. -/
theorem Tracks.noting {effects : Token → Effects (StateM w) σ ω ε}
    {known : w → List ω → List Derivation → Prop} (tracks : Tracks table effects known) :
    Tracks table (fun token => (effects token).noting token) fun (state, calls) values parts =>
      known state values parts ∧
        calls.filterMap Call.rule? = (Derivation.rulesOf parts.reverse).reverse where
  trace := fun ⟨known, noted⟩ => ⟨tracks.trace known, noted⟩
  shift := by
    rintro token ⟨state, calls⟩ after values value parts ⟨known, noted⟩ shifted
    rcases Prod.mk.inj shifted with ⟨answer, rfl⟩
    exact ⟨tracks.shift known (Prod.ext answer rfl),
      (List.filterMap_cons_none rfl).trans
        (by simpa [Derivation.rulesOf, Derivation.rules] using noted)⟩
  reduce := by
    rintro token rule ⟨state, calls⟩ after values value parts rest hasRule names
      ⟨known, noted⟩ reduced
    rcases Prod.mk.inj reduced with ⟨answer, rfl⟩
    exact ⟨tracks.reduce hasRule names known (Prod.ext answer rfl),
      by simp [noted, Call.rule?, Derivation.rulesOf, Derivation.rules]⟩

end Calls

section Listing

/-- The same effects where the rules that are reduced by are listed besides, the last one first. -/
def Effects.listing (effects : Effects (StateM w) σ ω ε) :
    Effects (StateM (w × List Rule)) σ ω ε where
  trace states action := fun (state, rules) =>
    let (done, state) := (effects.trace states action).run state
    (done, state, rules)
  shift := fun (state, rules) =>
    let (answer, state) := effects.shift.run state
    (answer, state, rules)
  reduce rule values := fun (state, rules) =>
    let (answer, state) := (effects.reduce rule values).run state
    (answer, state, rule :: rules)
  fault := effects.fault

omit [DecidableEq σ] in
/-- To list the reductions changes nothing else about a parse. -/
theorem Effects.listing_agree (effects : Effects (StateM w) σ ω ε) :
    effects.listing.Agree (fun listing state => listing.1 = state) Eq effects where
  stop _ := ⟨by rintro ⟨state, rules⟩ _ rfl; exact ⟨rfl, rfl⟩⟩
  trace _ _ _ actions := ⟨by
    rintro ⟨state, rules⟩ _ rfl
    rw [actions.eq]
    exact ⟨rfl, rfl⟩⟩
  shift := ⟨by rintro ⟨state, rules⟩ _ rfl; exact ⟨rfl, rfl⟩⟩
  reduce _ same := ⟨by rintro ⟨state, rules⟩ _ rfl; subst same; exact ⟨rfl, rfl⟩⟩
  fault := rfl

end Listing

namespace Derivation

mutual

/-- The tree of a derivation without any shaping: its nodes are labelled with the origins of the
rules. -/
def tree : Derivation → Tree
  | .leaf token => .token token
  | .node rule parts => .node rule.origin (treesOf parts)

/-- The trees of some derivations. -/
def treesOf : List Derivation → List Tree
  | [] => []
  | part :: parts => part.tree :: treesOf parts

end

theorem treesOf_eq_map (parts : List Derivation) : treesOf parts = parts.map tree := by
  induction parts with
  | nil => rfl
  | cons part parts ih => simp [treesOf, ih]

end Derivation

namespace Parser

variable {parser : Parser}

/-- Whether each rule of the table has a reduction. -/
def EachCalled (parser : Parser) : Prop :=
  ∀ rule, parser.table.HasRule rule → ∃ reduction,
    parser.reductions.find? rule = some reduction

/-- Whether a failure is what a callback comes to that has been called: the callback for the kind of
a token, or the reduction for a rule. -/
def Raises (parser : Parser) (failure : Failure) : Call Value Workspace → Prop
  | .shift token workspace => ∃ callback,
    assoc? parser.reductions.tokens token.kind = some callback ∧
      ((callback token).run.run workspace).1 = .error failure
  | .reduce _ rule values workspace => ∃ reduction,
    parser.reductions.find? rule = some reduction ∧
      ((reduction values).run.run workspace).1 = .error failure

/-- A failure that comes of a call comes of a callback, as long as there is one for each rule. -/
theorem EachCalled.raises (called : parser.EachCalled) {failure : Failure} {input : List Token}
    {call : Call Value Workspace} (fits : call.Fits parser.table input)
    (raises : call.Raises parser.effects failure) : parser.Raises failure call := by
  cases call with
  | shift token workspace =>
      cases found : assoc? parser.reductions.tokens token.kind with
      | none =>
          simp only [Call.Raises, Parser.effects, Reductions.shift, found] at raises
          cases raises
      | some callback => exact ⟨callback, found, by
          simpa [Call.Raises, Parser.effects, Reductions.shift, found] using raises⟩
  | reduce waiting rule values workspace =>
      rcases called rule fits.2.1 with ⟨reduction, found⟩
      exact ⟨reduction, found, by
        simpa [Call.Raises, Parser.effects, Reductions.reduce, found] using raises⟩

/-- The reduction that builds a tree of all that it is given. -/
def growAll (rule : Rule) (values : List Value) : Run Value :=
  return .node (← Work.plant fun forest => forest.addTree rule.origin values)

/-- A parser that builds a tree for each reduction and keeps tokens as they are. -/
structure GrowsAll (parser : Parser) : Prop where
  reduction : ∀ {rule : Rule}, parser.table.HasRule rule →
    parser.reductions.find? rule = some (growAll rule)
  tokens : parser.reductions.tokens = []

/-- Where every reduction builds a tree, the values on the stack show the trees of their
derivations. -/
theorem GrowsAll.tracks (grows : parser.GrowsAll) :
    Tracks parser.table parser.effects fun workspace values parts =>
      ∃ used, workspace.forest.ShowsAll values (parts.map Derivation.tree) used where
  trace := id
  shift := by
    rintro token workspace after values value parts ⟨used, shown⟩ shifted
    have yields : (parser.reductions.shift token).Yields workspace value after := shifted
    rw [Reductions.shift, grows.tokens] at yields
    rcases Run.yields_pure.mp yields with ⟨rfl, rfl⟩
    exact ⟨_, .cons (.token token) shown⟩
  reduce := by
    rintro token rule workspace after values value parts rest hasRule names
      ⟨used, shown⟩ reduced
    have yields : (parser.reductions.reduce rule
      (values.take rule.expansion.length).reverse).Yields workspace value after := reduced
    simp only [Reductions.reduce, grows.reduction hasRule, growAll, Run.yields_bind,
      Run.yields_plant, Run.yields_pure] at yields
    rcases yields with ⟨_, _, ⟨rfl, rfl⟩, rfl, rfl⟩
    have length : rule.expansion.length = (parts.map Derivation.tree).length := by
      simpa using congrArg List.length names.symm
    rw [List.map_append, List.map_reverse] at shown
    rcases shown.taken with ⟨usedTop, usedBelow, _, top, below⟩
    rw [length, List.map_cons, Derivation.tree, Derivation.treesOf_eq_map]
    have keeps := Forest.Keeps.addTree workspace.forest rule.origin
      (values.take (parts.map Derivation.tree).length).reverse
    exact ⟨_, .cons (Forest.shows_addTree top) (below.keep keeps (List.disjoint_nil_right _))⟩

/-- With a proper table every callback that a parse calls gets a token of the input, or as many
values as the rule has symbols. Where each rule has a reduction, a parse that fails does so because
the callback that it has called last has failed, with the same failure on the very same values;
whatever is looked up is there. If the parse accepts its input, the reductions that it has made are,
the last one first, a rightmost derivation of the kinds of its tokens. Where each reduction builds a
tree, the value of the parse shows the tree of this derivation, whose leaves are the tokens in
order. -/
theorem feedAll_sound {start : String} {starting ending : State}
    (proper : parser.table.Proper start starting ending) (granted : Nat → Nat)
    (tokens : List Token) {last : Token} (isEnd : last.kind = Token.endKind)
    (workspace : Workspace) :
    ∃ outcome stack after calls,
      (parser.table.feedAll parser.effects granted ending last tokens ⟨[starting], []⟩).run
          workspace = ((outcome, stack), after) ∧
      (parser.table.feedAll (fun token => (parser.effects token).noting token) granted ending last
          tokens ⟨[starting], []⟩).run (workspace, []) = ((outcome, stack), after, calls) ∧
      (∀ call ∈ calls, call.Fits parser.table (tokens ++ [last])) ∧
      (parser.EachCalled → ∀ failure, outcome = .failed failure →
        ∃ call ∈ calls.head?, parser.Raises failure call) ∧
      ∀ value, outcome = .finished value →
        RightmostDerivation parser.table.HasRule (tokens.map Token.kind) [start]
          (calls.filterMap Call.rule?) ∧
        (parser.GrowsAll → ∃ (derivation : Derivation) (used : List SequenceId),
          derivation.Valid parser.table.HasRule ∧ derivation.name = start ∧
          derivation.leaves = tokens ∧ calls.filterMap Call.rule? = derivation.rules.reverse ∧
          after.forest.Shows value derivation.tree used) := by
  have agrees := Table.feedAll_agrees (.refl parser.table fun _ => rfl)
    (fun same => by simp [same]) (fun token => (parser.effects token).noting_agree token) granted
    ending last tokens ⟨[starting], []⟩
  have kept := proper.feedAll_kept parser.effects granted isEnd tokens (fun _ member => member)
    ⟨[starting], []⟩ workspace [] .start rfl (by simp)
  rcases noted : StateT.run (parser.table.feedAll (fun token => (parser.effects token).noting token)
    granted ending last tokens ⟨[starting], []⟩) (workspace, [])
    with ⟨⟨outcome, states, values⟩, after, calls⟩
  rcases agrees.run (workspace, []) workspace rfl with ⟨answer, left⟩
  rw [noted] at answer left kept
  refine ⟨outcome, ⟨states, values⟩, after, calls, Prod.ext answer.symm left.symm, rfl,
    kept.fits, ?_, ?_⟩
  · rintro called failure rfl
    rcases kept.stands with ⟨call, latest, raises⟩
    exact ⟨call, latest, called.raises (kept.fits call (List.mem_of_mem_head? latest)) raises⟩
  · rintro value rfl
    constructor
    · rcases (Tracks.anything parser.effects).noting.accepted proper granted
        ⟨trivial, rfl⟩ noted with ⟨derivation, valid, rfl, rfl, ⟨_, rules⟩, _⟩
      simpa [rules, Derivation.rulesOf] using valid.rightmost
    · intro grows
      rcases grows.tracks.noting.accepted proper granted ⟨⟨[], .nil⟩, rfl⟩ noted
        with ⟨derivation, valid, name, leaves, ⟨⟨used, shown⟩, rules⟩, top, _⟩
      cases shown with
      | cons shown rest =>
          cases rest
          rcases Option.some.inj top with rfl
          exact ⟨derivation, _, valid, name, leaves, by simp [rules, Derivation.rulesOf], shown⟩

/-- Two rules for a text that begins with an A and has nothing behind it. -/
def letterRules : List Rule :=
  [{ origin := "start", expansion := [.terminal "A" false, .nonterminal "rest"] },
    { origin := "rest", expansion := [] }]

/-- The table of these rules. -/
def letterTable : Table State where
  rows := [
    (.number 0, [("A", .shift (.number 1)), ("start", .shift (.number 3))]),
    (.number 1, [("$END", .reduce letterRules[1]), ("rest", .shift (.number 2))]),
    (.number 2, [("$END", .reduce letterRules[0])]),
    (.number 3, [])]
  starts := [("start", .number 0)]
  ends := [("start", .number 3)]

/-- A lexer without terminals. -/
def blindLexer : Lexer where
  number := 0
  terminals := []
  ignored := []
  breaking := []
  callbacks := []
  vocabulary := Thunk.mk fun _ => (.error (.fault .malformedRegex), [])

/-- A parser for these rules that builds a tree for each reduction. -/
def letterParser : Parser where
  options := {}
  terminals := []
  rules := letterRules
  ignored := []
  table := letterTable
  reductions := { rules := letterRules.map fun rule => (rule, growAll rule) }
  source := { reader := .basic blindLexer }
  whole := blindLexer
  wholeKeeping := blindLexer

theorem letterParser_growsAll : letterParser.GrowsAll where
  reduction := by
    rintro rule ⟨state, kind, reduces⟩
    have member := Table.mem_reductions reduces
    have listed : letterParser.table.reductions =
      [(.number 1, letterRules[1]), (.number 2, letterRules[0])] := by rfl
    rw [listed] at member
    rcases List.mem_cons.mp member with same | member
    · rcases Prod.mk.inj same with ⟨rfl, rfl⟩
      rfl
    · rcases Prod.mk.inj (List.mem_singleton.mp member) with ⟨rfl, rfl⟩
      rfl
  tokens := rfl

theorem feedAll_sound_letter :
    ∃ (value : Value) (forest : Forest) (derivation : Derivation) (used : List SequenceId),
      RightmostDerivation letterTable.HasRule ["A"] ["start"] derivation.rules.reverse ∧
        forest.Shows value derivation.tree used := by
  have proper : letterTable.Proper "start" (.number 0) (.number 3) :=
    Table.proper_of_isProper (by decide)
  have isEnd : (Token.endOfInput none).kind = Token.endKind := rfl
  rcases @feedAll_sound letterParser _ _ _ proper (fun height => height + 2)
    [{ kind := "A", text := "a" }] _ isEnd {}
    with ⟨outcome, stack, after, calls, run, _, _, _, sound⟩
  have finished : outcome = .finished (.node ⟨1⟩) := (congrArg (fun run => run.1.1) run).symm
  rcases sound _ finished with ⟨rightmost, plain⟩
  rcases plain letterParser_growsAll with ⟨derivation, used, _, _, _, rules, shown⟩
  rw [rules] at rightmost
  exact ⟨_, _, derivation, used, rightmost, shown⟩

end Parser

end Lalr
