import Lalr.Machine.Move
import Lalr.Token

/-!
# Coherent tables

A parse never compares what it takes off its stack with the right hand side of the
rule it reduces by. That they fit is a property of the table: its shift entries
form a graph, every stack is a path of this graph, and wherever a row reduces,
every path that leads there ends with the symbols of the rule. This file states
the property and derives what a single move does to a path.
-/

namespace Lalr.Table

variable {σ : Type} [DecidableEq σ] {table : Table σ}

/-- Whether the row of a state moves on to a target at a symbol. -/
def Moves (table : Table σ) (source : σ) (symbol : String) (target : σ) : Prop :=
  ∃ row, table.row? source = some row ∧ assoc? row symbol = some (.shift target)

/-- Whether the row of a state reduces by a rule when it meets a token of some kind. -/
def Reduces (table : Table σ) (state : σ) (kind : String) (rule : Rule) : Prop :=
  ∃ row, table.row? state = some row ∧ assoc? row kind = some (.reduce rule)

/-- The stacks that shift entries lead to from a start state, each with the symbols of the entries.
Both have their top first. -/
inductive Path (table : Table σ) (starting : σ) : List σ → List String → Prop
  | start : Path table starting [starting] []
  | move {source target : σ} {below : List σ} {symbol : String} {symbols : List String}
      (path : Path table starting (source :: below) symbols)
      (moves : table.Moves source symbol target) :
      Path table starting (target :: source :: below) (symbol :: symbols)

/-- A table in which each state is entered on one symbol only, and whose reductions find on every
path what they take off it, above a state that goes on with the origin of the rule. -/
structure Coherent (table : Table σ) (starting : σ) : Prop where
  symbol_unique : ∀ {source source' target : σ} {symbol symbol' : String},
    table.Moves source symbol target → table.Moves source' symbol' target → symbol = symbol'
  handle : ∀ {state : σ} {states : List σ} {symbols : List String}
    {kind : String} {rule : Rule},
    table.Path starting (state :: states) symbols → table.Reduces state kind rule →
      (rule.expansion.map Symbol.name).reverse <+: symbols ∧
        ∃ base target,
          ((state :: states).drop rule.expansion.length).head? = some base ∧
            table.Moves base rule.origin target

/-- A coherent table for a start symbol that also has a row wherever a parse may come to stand, ends
a parse only where the start symbol alone is on the stack, and never shifts the end of the input. -/
structure Proper (table : Table σ) (start : String) (starting ending : σ) : Prop
    extends Coherent table starting where
  starts : assoc? table.starts start = some starting
  ends : assoc? table.ends start = some ending
  target_row : ∀ {source target : σ} {symbol : String},
    table.Moves source symbol target → (table.row? target).isSome
  start_row : ∀ {name : String} {state : σ},
    assoc? table.starts name = some state → (table.row? state).isSome
  end_row : ∀ {name : String} {state : σ},
    assoc? table.ends name = some state → (table.row? state).isSome
  not_moves_starting : ∀ {source : σ} {symbol : String}, ¬table.Moves source symbol starting
  moves_ending : ∀ {source : σ} {symbol : String},
    table.Moves source symbol ending → source = starting ∧ symbol = start
  not_moves_end : ∀ {source target : σ}, ¬table.Moves source Token.endKind target

namespace Path

variable {starting : σ} {states : List σ} {symbols : List String}

theorem length_eq (path : table.Path starting states symbols) :
    states.length = symbols.length + 1 := by
  induction path with
  | start => rfl
  | move _ _ ih => simp [ih]

theorem exists_top (path : table.Path starting states symbols) :
    ∃ top below, states = top :: below := by
  cases path with
  | start => exact ⟨starting, [], rfl⟩
  | move _ _ => exact ⟨_, _, rfl⟩

/-- The start state lies at the bottom of every path. -/
theorem getLast?_eq (path : table.Path starting states symbols) :
    states.getLast? = some starting := by
  induction path with
  | start => rfl
  | move _ _ ih => simpa using ih

/-- Taking states off a path leaves a path, as long as the start state stays. -/
theorem drop (path : table.Path starting states symbols) (count : Nat)
    (bound : count ≤ symbols.length) :
    table.Path starting (states.drop count) (symbols.drop count) := by
  induction path generalizing count with
  | start =>
      have : count = 0 := by simpa using bound
      subst count
      exact .start
  | move path moves ih =>
      cases count with
      | zero => exact .move path moves
      | succ count =>
          simp only [List.drop_succ_cons]
          exact ih count (by simpa using bound)

/-- Going on from the top of a path gives a path. -/
theorem extend (path : table.Path starting states symbols) {base target : σ} {symbol : String}
    (top : states.head? = some base) (moves : table.Moves base symbol target) :
    table.Path starting (target :: states) (symbol :: symbols) := by
  rcases path.exists_top with ⟨state, below, rfl⟩
  rcases (show state = base by simpa using top) with rfl
  exact .move path moves

/-- The top of a path is entered on the symbol on top. -/
theorem exists_moves {target : σ} {symbol : String}
    (path : table.Path starting (target :: states) (symbol :: symbols)) :
    ∃ source, table.Moves source symbol target := by
  cases path with
  | move _ moves => exact ⟨_, moves⟩

/-- A path to a state that only the start state leads to has the start symbol on top, and nothing
else on it if the start state is not entered again. -/
theorem symbols_of_ending {start : String} {ending : σ}
    (path : table.Path starting states symbols) (top : states.head? = some ending)
    (nonempty : symbols ≠ [])
    (endsAt : ∀ {source symbol}, table.Moves source symbol ending →
      source = starting ∧ symbol = start) :
    ∃ rest, symbols = start :: rest ∧
      ((∀ {source symbol}, ¬table.Moves source symbol starting) → rest = []) := by
  cases path with
  | start => exact absurd rfl nonempty
  | @move source target below symbol rest path moves =>
      rcases Option.some.inj top with rfl
      rcases endsAt moves with ⟨rfl, rfl⟩
      refine ⟨rest, rfl, fun apart => ?_⟩
      cases path with
      | start => rfl
      | move _ moves => exact absurd moves apart

end Path

section Moving

variable {starting : σ} {states : List σ} {symbols : List String} {kind : String}

theorem topRow_eq_ok_iff {row : Row σ} :
    table.topRow states = .ok row ↔
      ∃ state below, states = state :: below ∧ table.row? state = some row := by
  cases states with
  | nil => simp [topRow]
  | cons state below =>
      cases read : table.row? state with
      | none => simp [topRow, read]
      | some row => simp [topRow, read]

theorem move_eq_shift {target : σ} (move : table.move states kind = .shift target) :
    ∃ state, states.head? = some state ∧ table.Moves state kind target := by
  unfold Table.move at move
  cases read : table.topRow states with
  | error fault => simp [read] at move
  | ok row =>
      rcases topRow_eq_ok_iff.mp read with ⟨state, below, rfl, found⟩
      cases entry : assoc? row kind with
      | none => simp [read, entry] at move
      | some action =>
          cases action with
          | reduce rule => simp [read, entry] at move
          | shift next =>
              rcases (show next = target by simpa [read, entry] using move) with rfl
              exact ⟨state, rfl, row, found, entry⟩

theorem move_eq_reduce {rule : Rule} (move : table.move states kind = .reduce rule) :
    ∃ state, states.head? = some state ∧ table.Reduces state kind rule := by
  unfold Table.move at move
  cases read : table.topRow states with
  | error fault => simp [read] at move
  | ok row =>
      rcases topRow_eq_ok_iff.mp read with ⟨state, below, rfl, found⟩
      cases entry : assoc? row kind with
      | none => simp [read, entry] at move
      | some action =>
          cases action with
          | shift next => simp [read, entry] at move
          | reduce other =>
              rcases (show other = rule by simpa [read, entry] using move) with rfl
              exact ⟨state, rfl, row, found, entry⟩

theorem move_ne_lost {state : σ} {below : List σ} {fault : Fault}
    (row : (table.row? state).isSome) : table.move (state :: below) kind ≠ .lost fault := by
  rcases Option.isSome_iff_exists.mp row with ⟨row, found⟩
  intro move
  cases entry : assoc? row kind with
  | none => simp [Table.move, topRow, found, entry] at move
  | some action => cases action <;> simp [Table.move, topRow, found, entry] at move

theorem target_eq_ok {base target : σ} {origin : String} (top : states.head? = some base)
    (moves : table.Moves base origin target) : table.target states origin = .ok target := by
  rcases moves with ⟨row, found, entry⟩
  rcases List.head?_eq_some_iff.mp top with ⟨below, rfl⟩
  simp [Table.target, topRow, found, entry, bind, Except.bind, pure, Except.pure]

theorem exists_of_target {target : σ} {origin : String}
    (found : table.target states origin = .ok target) :
    ∃ base, states.head? = some base ∧ table.Moves base origin target := by
  unfold Table.target at found
  cases read : table.topRow states with
  | error fault => simp [read, bind, Except.bind] at found
  | ok row =>
      rcases topRow_eq_ok_iff.mp read with ⟨state, below, rfl, known⟩
      cases entry : assoc? row origin with
      | none => simp [read, entry, bind, Except.bind, throw, throwThe, MonadExceptOf.throw] at found
      | some action =>
          cases action with
          | reduce rule =>
              simp [read, entry, bind, Except.bind, throw, throwThe, MonadExceptOf.throw] at found
          | shift next =>
              have same : next = target := by
                simpa [read, entry, bind, Except.bind, pure, Except.pure] using found
              rcases same with rfl
              exact ⟨state, rfl, row, known, entry⟩

/-- What a reduction meets on a path: the symbols of its rule on top, and below them a path that
goes on with the origin of the rule. -/
theorem Coherent.reduction (coherent : table.Coherent starting) {rule : Rule}
    (path : table.Path starting states symbols) (move : table.move states kind = .reduce rule) :
    ∃ rest target, symbols = (rule.expansion.map Symbol.name).reverse ++ rest ∧
      table.target (states.drop rule.expansion.length) rule.origin = .ok target ∧
      table.Path starting (target :: states.drop rule.expansion.length) (rule.origin :: rest) := by
  rcases move_eq_reduce move with ⟨top, found, reduces⟩
  rcases List.head?_eq_some_iff.mp found with ⟨below, rfl⟩
  rcases coherent.handle path reduces with ⟨⟨rest, rfl⟩, base, target, based, moves⟩
  have left := path.drop rule.expansion.length (by simp)
  rw [List.drop_left' (by simp)] at left
  exact ⟨rest, target, rfl, target_eq_ok based moves, left.extend based moves⟩

end Moving

namespace Proper

variable {start : String} {starting ending : σ} {states : List σ} {symbols : List String}
  {kind : String}

/-- Every state on a path has a row. -/
theorem row_isSome (proper : table.Proper start starting ending)
    (path : table.Path starting states symbols) {state : σ} (member : state ∈ states) :
    (table.row? state).isSome := by
  induction path with
  | start =>
      rcases List.mem_singleton.mp member with rfl
      exact proper.start_row proper.starts
  | move path moves ih =>
      rcases List.mem_cons.mp member with rfl | member
      · exact proper.target_row moves
      · exact ih member

theorem move_ne_lost (proper : table.Proper start starting ending)
    (path : table.Path starting states symbols) {fault : Fault} :
    table.move states kind ≠ .lost fault := by
  rcases path.exists_top with ⟨top, below, rfl⟩
  exact Table.move_ne_lost (proper.row_isSome path (by simp))

/-- A path that ends in the end state consists of the start symbol alone. -/
theorem symbols_of_ending (proper : table.Proper start starting ending)
    (path : table.Path starting states symbols) (top : states.head? = some ending)
    (nonempty : symbols ≠ []) : symbols = [start] := by
  rcases path.symbols_of_ending top nonempty proper.moves_ending with ⟨rest, rfl, alone⟩
  rw [alone proper.not_moves_starting]

end Proper

end Lalr.Table
