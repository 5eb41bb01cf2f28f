import Lalr.Grammar.Rule
import Lalr.Table.State

/-!
# Parse tables

A table has a row for each state. The row says, for each symbol, to move on to
another state or to reduce by a rule. Entries on nonterminals are always moves:
they are taken after a reduction.
-/

namespace Lalr

/-- What a table says about a state and a symbol. -/
inductive Action (σ : Type) where
  | shift (target : σ)
  | reduce (rule : Rule)
  deriving DecidableEq, Inhabited

/-- The entries of a state: symbol names with their actions, in the order in which they were
given. -/
abbrev Row (σ : Type) := List (String × Action σ)

/-- A parse table over states of any type. `starts` and `ends` give, for each start symbol, the
state in which a parse begins and the state that ends it. -/
structure Table (σ : Type) where
  rows : List (σ × Row σ)
  starts : List (String × σ)
  ends : List (String × σ)
  deriving Inhabited

/-- The value under a key in a list of pairs. -/
def assoc? {α β : Type} [DecidableEq α] (pairs : List (α × β)) (key : α) : Option β :=
  match pairs with
  | [] => none
  | (k, v) :: rest => if k = key then some v else assoc? rest key

namespace Table

variable {σ : Type} [DecidableEq σ]

/-- The row of a state. -/
def row? (table : Table σ) (state : σ) : Option (Row σ) := assoc? table.rows state

/-- The terminals that a row has an entry for. -/
def expected (row : Row σ) : List String := (row.map (·.1)).filter isTerminalName

/-- Renames the states of a table. -/
def mapStates {τ : Type} (f : σ → τ) (table : Table σ) : Table τ where
  rows := table.rows.map fun (state, row) =>
    (f state, row.map fun (symbol, action) =>
      (symbol, match action with
        | .shift target => .shift (f target)
        | .reduce rule => .reduce rule))
  starts := table.starts.map fun (start, state) => (start, f state)
  ends := table.ends.map fun (start, state) => (start, f state)

end Table

/-- An action as messages show it. -/
def Action.shown : Action State → String
  | .shift target => "Shift(state=" ++ target.shown ++ ")"
  | .reduce rule => "Reduce(rule=" ++ rule.shown ++ ")"

end Lalr
