import Lalr.Failure

/-!
# Moves

What a table tells a parse to do is decided by its stack of states and the kind
of the next token alone. Stacks have their top first.
-/

namespace Lalr

/-- What a parse does next. A move is lost if the stack is empty or its top has no row. -/
inductive Move (σ : Type) where
  | lost (fault : Fault)
  | rejected (expected : List String)
  | shift (target : σ)
  | reduce (rule : Rule)
  deriving DecidableEq, Inhabited

namespace Table

variable {σ : Type} [DecidableEq σ]

/-- The row of the state on top of a stack. -/
def topRow (table : Table σ) : List σ → Except Fault (Row σ)
  | [] => .error .outOfRange
  | state :: _ =>
    match table.row? state with
    | some row => .ok row
    | none => .error .missingEntry

/-- The move on a token of some kind. -/
def move (table : Table σ) (states : List σ) (kind : String) : Move σ :=
  match table.topRow states with
  | .error fault => .lost fault
  | .ok row =>
    match assoc? row kind with
    | none => .rejected (sortedSet (expected row))
    | some (.shift target) => .shift target
    | some (.reduce rule) => .reduce rule

/-- The state to go to from the top of a stack once a nonterminal has been found there. -/
def target (table : Table σ) (states : List σ) (origin : String) : Except Fault σ := do
  match assoc? (← table.topRow states) origin with
  | none => throw .missingEntry
  | some (.reduce _) => throw .brokenPromise
  | some (.shift target) => return target

/-- The stack of states after a reduction. -/
def afterReduction (table : Table σ) (states : List σ)
    (rule : Rule) : Except Fault (List σ) := do
  let below := states.drop rule.expansion.length
  return (← table.target below rule.origin) :: below

/-- The number of symbols that the longest rule of a row's reductions has. -/
def longestRule (table : Table σ) : Nat :=
  table.rows.foldl (fun longest (_, row) => row.foldl (fun longest (_, action) =>
    match action with
    | .shift _ => longest
    | .reduce rule => max longest rule.expansion.length) longest) 0

/-- More reductions than a parse makes on one token with a stack of some height, unless it goes on
reducing for ever. -/
def reductionBound (table : Table σ) (height : Nat) : Nat :=
  (height + 2) * Nat.pow (table.longestRule + 2) (table.rows.length + 2)

end Table

end Lalr
