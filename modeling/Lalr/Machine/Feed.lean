import Lalr.Machine.Move

/-!
# Feeding tokens

On each token a parse reduces as often as its table says and then shifts the
token; the token that ends the input is never shifted, and the parse is finished
once reductions lead to the end state. What values the reductions build is left
open here.
-/

namespace Lalr

/-- The stack of a parse, its states and its values apart, the top first. The start state lies at
the bottom of the states and has no value of its own. -/
structure Stack (σ ω : Type) where
  states : List σ
  values : List ω
  deriving DecidableEq, Inhabited

/-- How feeding a token ends. It is endless if there were more reductions than `fuel` allows. -/
inductive Outcome (ω ε : Type) where
  | shifted
  | finished (value : ω)
  | rejected (expected : List String)
  | failed (failure : ε)
  | endless
  deriving Inhabited

/-- What happens beside the moves of a table: each move may be traced, a shifted token becomes a
value, and a reduction makes a value of those of its symbols. -/
structure Effects (m : Type → Type) (σ ω ε : Type) where
  trace : List σ → Option (Action σ) → m Unit
  shift : m (Except ε ω)
  reduce : Rule → List ω → m (Except ε ω)
  fault : Fault → ε

namespace Table

variable {σ ω ε : Type} [DecidableEq σ] {m : Type → Type} [Monad m]

/-- Pushes the state and the value of a reduced rule. -/
def push (table : Table σ) (effects : Effects m σ ω ε) (rule : Rule) (value : ω)
    (stack : Stack σ ω) : Except ε (Stack σ ω) :=
  match table.target stack.states rule.origin with
  | .error fault => .error (effects.fault fault)
  | .ok target => .ok { states := target :: stack.states, values := value :: stack.values }

/-- Feeds a token of some kind. A token that ends the input comes with the end state. The stack is
given back as it is in the end, whatever the outcome. -/
def feed (table : Table σ) (effects : Effects m σ ω ε) (kind : String) (ending : Option σ) :
    Nat → Stack σ ω → m (Outcome ω ε × Stack σ ω)
  | 0, stack => return (.endless, stack)
  | fuel + 1, stack => do
    match table.move stack.states kind with
    | .lost fault => return (.failed (effects.fault fault), stack)
    | .rejected expected =>
      effects.trace stack.states none
      return (.rejected expected, stack)
    | .shift target =>
      effects.trace stack.states (some (.shift target))
      if ending.isSome then return (.failed (effects.fault .brokenPromise), stack)
      let states := target :: stack.states
      match ← effects.shift with
      | .error failure => return (.failed failure, { stack with states })
      | .ok value => return (.shifted, { states, values := value :: stack.values })
    | .reduce rule =>
      effects.trace stack.states (some (.reduce rule))
      let size := rule.expansion.length
      let below : Stack σ ω :=
        { states := stack.states.drop size, values := stack.values.drop size }
      match ← effects.reduce rule (stack.values.take size).reverse with
      | .error failure => return (.failed failure, below)
      | .ok value =>
        match table.push effects rule value below with
        | .error failure => return (.failed failure, below)
        | .ok stack =>
          if ending.isSome && stack.states.head? == ending then
            return (.finished value, stack)
          else table.feed effects kind ending fuel stack

/-- The effects of a parse that builds nothing, beside a trace. -/
def silently (trace : List σ → Option (Action σ) → m Unit) : Effects m σ Unit Fault where
  trace := trace
  shift := return .ok ()
  reduce := fun _ _ => return .ok ()
  fault := id

/-- Whether a token of some kind is not rejected, found by feeding it without building anything. -/
def takes (table : Table σ) (trace : List σ → Option (Action σ) → m Unit)
    (ending : Option σ) (states : List σ) (kind : String) : m (Except Fault Bool) := do
  let stack : Stack σ Unit := { states, values := [] }
  let fuel := table.reductionBound states.length
  match (← table.feed (silently trace) kind ending fuel stack).1 with
  | .failed fault => return .error fault
  | .rejected _ => return .ok false
  | .shifted | .finished _ => return .ok true
  | .endless => return .ok false

/-- Which of some terminals are not rejected. The one that ends the input comes with the end
state. -/
def taken (table : Table σ) (trace : String → List σ → Option (Action σ) → m Unit)
    (ending : σ) (states : List σ) : List String → m (Except Fault (List String))
  | [] => return .ok []
  | kind :: rest => do
    let accepting := if kind = Token.endKind then some ending else none
    match ← table.takes (trace kind) accepting states kind with
    | .error fault => return .error fault
    | .ok isTaken =>
      let more ← table.taken trace ending states rest
      return more.map fun kinds => if isTaken then kind :: kinds else kinds

/-- The terminals that would be accepted. Each of those that the state on top has an entry for is
tried out. -/
def accepted (table : Table σ) (trace : String → List σ → Option (Action σ) → m Unit)
    (ending : σ) (states : List σ) : m (Except Fault (List String)) := do
  match table.topRow states with
  | .error fault => return .error fault
  | .ok row =>
    let kinds ← table.taken trace ending states (expected row)
    return kinds.map sortedSet

end Table

end Lalr
