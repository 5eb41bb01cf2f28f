import Lalr.Table.Basic
import Lalr.Text.Lines

/-!
# Tables as grids of text

One line for each state: a column of width six for each terminal, then a column
of width five for each nonterminal. A cell holds `s` and a state, `r` and the
length of a rule, or for a nonterminal just the state.
-/

namespace Lalr

/-- The texts in increasing order, each once. -/
def sortedSet (texts : List String) : List String :=
  (texts.mergeSort fun a b => decide (a ≤ b)).eraseDups

namespace Table

/-- What a cell of the grid holds. -/
def cell (row : Row State) (symbol : String) : String :=
  match assoc? row symbol with
  | some (.shift target) =>
    if isTerminalName symbol then "s" ++ target.plain else target.plain
  | some (.reduce rule) => "r" ++ toString rule.expansion.length
  | none => ""

/-- The table as a grid. -/
def grid (table : Table State) : String :=
  let symbols := sortedSet (table.rows.flatMap fun (_, row) => row.map (·.1))
  let terminals := symbols.filter isTerminalName
  let nonterminals := symbols.filter fun symbol => !isTerminalName symbol
  let columns (show6 show5 : String → String) : String :=
    Text.joinWith " " (terminals.map fun symbol => Text.padEnd 6 (show6 symbol)) ++ " | "
      ++ Text.joinWith " " (nonterminals.map fun symbol => Text.padEnd 5 (show5 symbol))
  let header := "     | " ++ columns id id
  let rule := String.ofList (List.replicate header.length '-')
  let lines := table.rows.map fun (state, row) =>
    Text.padEnd 4 state.plain ++ " | " ++ columns (cell row) (cell row)
  Text.joinWith "\n" (header :: rule :: lines)

section

variable {σ : Type} [DecidableEq σ]

/-- The position of a state among the rows. -/
def indexOf? (table : Table σ) (state : σ) : Option Nat :=
  table.rows.findIdx? fun entry => entry.1 == state

/-- The table with its states numbered in the order of their rows, if every state it mentions has a
row. -/
def renumbered? (table : Table σ) : Option (Table State) := do
  let number (state : σ) : Option State := (table.indexOf? state).map fun (n : Nat) => .number n
  let rows ← table.rows.mapM fun (state, row) => do
    let row ← row.mapM fun (symbol, action) => do
      match action with
      | .shift target => return (symbol, Action.shift (← number target))
      | .reduce rule => return (symbol, .reduce rule)
    return (← number state, row)
  let starts ← table.starts.mapM fun (start, state) => return (start, ← number state)
  let ends ← table.ends.mapM fun (start, state) => return (start, ← number state)
  return { rows, starts, ends }

end

end Table

end Lalr
