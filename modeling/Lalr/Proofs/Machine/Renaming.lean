import Mathlib.Data.Set.Function
import Lalr.Machine.Feed
import Lalr.Proofs.Pairs

/-!
# Renamed states

A parse compares states with one another and looks their rows up, and does nothing else with
them. So where no state takes the name of a row's state, a parse on the renamed table goes
through the renamed stacks of states with the very same values, and ends in the same way. The
states of a table that mentions no others can be numbered in the order of their rows.
-/

namespace Lalr

section Definitions

variable {σ τ ω ε : Type} {m : Type → Type}

/-- The action with its state renamed. -/
def Action.rename (f : σ → τ) : Action σ → Action τ
  | .shift target => .shift (f target)
  | .reduce rule => .reduce rule

/-- The row with its states renamed. -/
def Row.rename (f : σ → τ) (row : Row σ) : Row τ :=
  row.map fun entry => (entry.1, entry.2.rename f)

/-- The move with its state renamed. -/
def Move.rename (f : σ → τ) : Move σ → Move τ
  | .lost fault => .lost fault
  | .rejected expected => .rejected expected
  | .shift target => .shift (f target)
  | .reduce rule => .reduce rule

/-- The stack with its states renamed and its values as they are. -/
def Stack.rename (f : σ → τ) (stack : Stack σ ω) : Stack τ ω where
  states := stack.states.map f
  values := stack.values

/-- The same effects where states go by other names: what is traced is traced under the new names,
and values are made in the same way. -/
def Effects.renaming (f : σ → τ) (effects : Effects m τ ω ε) : Effects m σ ω ε where
  trace states action := effects.trace (states.map f) (action.map (Action.rename f))
  shift := effects.shift
  reduce := effects.reduce
  fault := effects.fault

/-- What there is to see of a parse once it has been fed a token: how that ended, the stack that it
left, and the terminals that would be accepted next. -/
structure Fed (σ ω ε : Type) where
  outcome : Outcome ω ε
  stack : Stack σ ω
  accepted : Except Fault (List String)

/-- The same with the states of the stack renamed. -/
def Fed.rename (f : σ → τ) (fed : Fed σ ω ε) : Fed τ ω ε where
  outcome := fed.outcome
  stack := fed.stack.rename f
  accepted := fed.accepted

namespace Table

/-- The states that have a row. -/
def states (table : Table σ) : List σ := table.rows.map (·.1)

/-- Whether every state that a table mentions has a row. -/
structure Complete (table : Table σ) : Prop where
  targets : ∀ row ∈ table.rows, ∀ entry ∈ row.2, ∀ target, entry.2 = .shift target →
    target ∈ table.states
  starts : ∀ start ∈ table.starts, start.2 ∈ table.states
  ends : ∀ ending ∈ table.ends, ending.2 ∈ table.states

/-- Whether no other state is given the name of a state that has a row. -/
def Apart (table : Table σ) (f : σ → τ) : Prop :=
  ∀ state other, other ∈ table.states → f state = f other → state = other

variable [DecidableEq σ] [Monad m]

/-- Feeds tokens one after another, whatever becomes of them. Each of them may be meant to end the
input. -/
def feedEach (table : Table σ) (effects : Token → Effects m σ ω ε) (ending : σ) :
    List (Token × Bool) → Stack σ ω → m (List (Fed σ ω ε))
  | [], _ => return []
  | (token, isEnd) :: calls, stack => do
    let (outcome, stack) ← table.feed (effects token) token.kind
      (if isEnd then some ending else none) (table.reductionBound stack.states.length) stack
    let accepted ← table.accepted
      (fun kind => (effects { kind, text := "" }).trace) ending stack.states
    let rest ← table.feedEach effects ending calls stack
    return { outcome, stack, accepted } :: rest

end Table

end Definitions

namespace Table

variable {σ τ ω ε : Type} {table : Table σ} {f : σ → τ}

/-! ## Looking up under new names -/

theorem assoc?_rename (row : Row σ) (symbol : String) :
    assoc? (row.rename f) symbol = (assoc? row symbol).map (Action.rename f) :=
  assoc?_map (Action.rename f) row symbol

theorem expected_rename (row : Row σ) : expected (row.rename f) = expected row := by
  simp [expected, Row.rename, Function.comp_def]

theorem states_mapStates (f : σ → τ) : (table.mapStates f).states = table.states.map f := by
  simp [states, mapStates, Function.comp_def]

theorem rows_mapStates (f : σ → τ) :
    (table.mapStates f).rows = table.rows.map fun row => (f row.1, Row.rename f row.2) := by
  refine List.map_congr_left fun row _ => Prod.ext rfl (List.map_congr_left fun entry _ => ?_)
  rcases entry with ⟨symbol, _ | _⟩ <;> rfl

theorem longestRule_mapStates (f : σ → τ) :
    (table.mapStates f).longestRule = table.longestRule := by
  unfold longestRule
  rw [rows_mapStates, List.foldl_map]
  refine congrArg (fun step => table.rows.foldl step 0) (funext₂ fun longest (state, row) => ?_)
  dsimp only [Row.rename]
  rw [List.foldl_map]
  refine congrArg (fun step => row.foldl step longest) (funext₂ fun longest entry => ?_)
  rcases entry with ⟨symbol, _ | _⟩ <;> rfl

theorem reductionBound_mapStates (f : σ → τ) (height : Nat) :
    (table.mapStates f).reductionBound height = table.reductionBound height := by
  have rows : (table.mapStates f).rows.length = table.rows.length := by simp [mapStates]
  rw [reductionBound, reductionBound, longestRule_mapStates, rows]

theorem assoc?_mapStates (f : σ → τ) (pairs : List (String × σ)) (start : String) :
    assoc? (pairs.map fun pair => (pair.1, f pair.2)) start = (assoc? pairs start).map f :=
  assoc?_map f pairs start

/-- The end state has its row, whether a token is meant to end the input or not. -/
theorem mem_ending {ending : σ} (row : ending ∈ table.states) (isEnd : Prop) [Decidable isEnd] :
    ∀ state ∈ (if isEnd then some ending else none), state ∈ table.states := by
  intro state within
  split at within
  · exact Option.some.inj within ▸ row
  · cases within

variable [DecidableEq σ] [DecidableEq τ]

section

variable (apart : table.Apart f)
include apart

theorem row?_rename (state : σ) :
    (table.mapStates f).row? (f state) = (table.row? state).map (Row.rename f) := by
  unfold row?
  rw [rows_mapStates]
  unfold Apart states at apart
  generalize table.rows = rows at apart
  induction rows with
  | nil => rfl
  | cons row rows ih =>
      have later := ih fun state other within => apart state other (List.mem_cons_of_mem _ within)
      simp only [List.map_cons, assoc?]
      by_cases same : row.1 = state
      · rw [if_pos (congrArg f same), if_pos same]
        rfl
      · have other : f row.1 ≠ f state := fun named =>
          same (apart state row.1 List.mem_cons_self named.symm).symm
        rw [if_neg other, if_neg same, later]

theorem topRow_rename (states : List σ) :
    (table.mapStates f).topRow (states.map f) = (table.topRow states).map (Row.rename f) := by
  cases states with
  | nil => rfl
  | cons state below =>
      rw [List.map_cons, topRow, topRow, row?_rename apart]
      cases table.row? state <;> rfl

theorem move_rename (states : List σ) (kind : String) :
    (table.mapStates f).move (states.map f) kind = (table.move states kind).rename f := by
  rw [move, move, topRow_rename apart]
  cases table.topRow states with
  | error fault => rfl
  | ok row =>
      simp only [Except.map, assoc?_rename, expected_rename]
      rcases assoc? row kind with _ | _ | _ <;> rfl

theorem target_rename (states : List σ) (origin : String) :
    (table.mapStates f).target (states.map f) origin = (table.target states origin).map f := by
  rw [target, target, topRow_rename apart]
  cases table.topRow states with
  | error fault => rfl
  | ok row =>
      simp only [Except.map, bind, Except.bind, assoc?_rename]
      rcases assoc? row origin with _ | _ | _ <;> rfl

/-! ## Parses under new names -/

theorem push_rename (effects : Effects m τ ω ε) (rule : Rule) (value : ω)
    (stack : Stack σ ω) :
    (table.mapStates f).push effects rule value (stack.rename f) =
      (table.push (effects.renaming f) rule value stack).map (Stack.rename f) := by
  unfold push
  rw [Stack.rename, target_rename apart]
  cases table.target stack.states rule.origin <;> rfl

variable [Monad m] [LawfulMonad m]

/-- Feeding a token goes the same way under new names. Induction on the number of steps. -/
theorem feed_rename (effects : Effects m τ ω ε) (kind : String) {ending : Option σ}
    (row : ∀ state ∈ ending, state ∈ table.states) (fuel : Nat) : ∀ stack : Stack σ ω,
      (table.mapStates f).feed effects kind (ending.map f) fuel (stack.rename f) =
        (fun fed => (fed.1, fed.2.rename f)) <$>
          table.feed (effects.renaming f) kind ending fuel stack := by
  have ends (stack : Stack σ ω) :
      ((ending.map f).isSome && (stack.rename f).states.head? == ending.map f) =
        (ending.isSome && stack.states.head? == ending) := by
    cases ending with
    | none => rfl
    | some ending =>
        rw [Stack.rename]
        rcases stack.states with _ | ⟨state, below⟩
        · rfl
        · have same : f state = f ending ↔ state = ending :=
            ⟨apart state ending (row ending rfl), congrArg f⟩
          simp [same]
  induction fuel with
  | zero =>
      intro stack
      simp [feed]
  | succ fuel ih =>
      intro stack
      have moves := move_rename apart stack.states kind
      simp only [feed]
      rw [show (stack.rename f).states = stack.states.map f from rfl, moves]
      cases table.move stack.states kind with
      | lost fault => simp [Move.rename, Effects.renaming]
      | rejected expected => simp [Move.rename, Effects.renaming]
      | shift target =>
          simp only [Move.rename, map_bind]
          refine bind_congr fun _ => ?_
          cases ending with
          | some ending => simp [Effects.renaming]
          | none =>
              simp only [Option.map_none, Option.isSome_none, Bool.false_eq_true,
                if_false, map_bind]
              refine bind_congr fun answer => ?_
              cases answer <;> simp [Stack.rename]
      | reduce rule =>
          simp only [Move.rename, map_bind]
          refine bind_congr fun _ => ?_
          refine bind_congr fun answer => ?_
          cases answer with
          | error failure => simp [Stack.rename]
          | ok value =>
              have pushed := push_rename apart effects rule value
                ⟨stack.states.drop rule.expansion.length,
                  stack.values.drop rule.expansion.length⟩
              have below : (⟨(stack.states.map f).drop rule.expansion.length,
                  (stack.rename f).values.drop rule.expansion.length⟩ : Stack τ ω) =
                Stack.rename f ⟨stack.states.drop rule.expansion.length,
                  stack.values.drop rule.expansion.length⟩ := by
                simp [Stack.rename]
              dsimp only
              rw [below, pushed]
              cases table.push (effects.renaming f) rule value _ with
              | error failure => simp [Except.map]
              | ok next =>
                  simp only [Except.map]
                  rw [ends next]
                  split
                  · simp
                  · exact ih next

theorem takes_rename (trace : List τ → Option (Action τ) → m Unit) {ending : Option σ}
    (row : ∀ state ∈ ending, state ∈ table.states) (states : List σ) (kind : String) :
    (table.mapStates f).takes trace (ending.map f) (states.map f) kind =
      table.takes (fun states action => trace (states.map f) (action.map (Action.rename f)))
        ending states kind := by
  have fed := feed_rename apart (silently trace) kind row (table.reductionBound states.length)
    ⟨states, []⟩
  unfold takes
  dsimp only
  rw [reductionBound_mapStates, List.length_map]
  rw [show (⟨states.map f, []⟩ : Stack τ Unit) = Stack.rename f ⟨states, []⟩ from rfl,
    fed, bind_map_left]
  rfl

theorem taken_rename (trace : String → List τ → Option (Action τ) → m Unit) {ending : σ}
    (row : ending ∈ table.states) (states : List σ) (kinds : List String) :
    (table.mapStates f).taken trace (f ending) (states.map f) kinds =
      table.taken
        (fun kind states action => trace kind (states.map f) (action.map (Action.rename f)))
        ending states kinds := by
  induction kinds with
  | nil => rfl
  | cons kind kinds ih =>
      have accepting : (if kind = Token.endKind then some (f ending) else none) =
          (if kind = Token.endKind then some ending else none).map f := by split <;> rfl
      simp only [taken, ih]
      rw [accepting, takes_rename apart (trace kind) (mem_ending row _)]

/-- What a parse would accept is the same under new names. -/
theorem accepted_rename (trace : String → List τ → Option (Action τ) → m Unit) {ending : σ}
    (row : ending ∈ table.states) (states : List σ) :
    (table.mapStates f).accepted trace (f ending) (states.map f) =
      table.accepted
        (fun kind states action => trace kind (states.map f) (action.map (Action.rename f)))
        ending states := by
  unfold accepted
  rw [topRow_rename apart]
  cases table.topRow states with
  | error fault => rfl
  | ok found =>
      simp only [Except.map, expected_rename]
      rw [taken_rename apart trace row]

/-- A parse goes the same way under new names, whatever tokens it is fed. Induction on the
tokens. -/
theorem feedEach_rename (effects : Token → Effects m τ ω ε) {ending : σ}
    (row : ending ∈ table.states) (calls : List (Token × Bool)) : ∀ stack : Stack σ ω,
      (table.mapStates f).feedEach effects (f ending) calls (stack.rename f) =
        List.map (Fed.rename f) <$>
          table.feedEach (fun token => (effects token).renaming f) ending calls stack := by
  induction calls with
  | nil => exact fun stack => by simp [feedEach]
  | cons call calls ih =>
      rcases call with ⟨token, isEnd⟩
      intro stack
      have ending_ : (if isEnd then some (f ending) else none) =
          (if isEnd then some ending else none).map f := by split <;> rfl
      simp only [feedEach, map_bind, map_pure]
      rw [reductionBound_mapStates, ending_,
        show (stack.rename f).states = stack.states.map f from rfl, List.length_map,
        feed_rename apart (effects token) token.kind (mem_ending row _), bind_map_left]
      refine bind_congr fun (outcome, next) => ?_
      dsimp only
      rw [show (next.rename f).states = next.states.map f from rfl, accepted_rename apart _ row]
      refine bind_congr fun accepted => ?_
      rw [ih, bind_map_left]
      rfl

end

/-! ## Numbered states -/

omit [DecidableEq τ] in
theorem indexOf?_eq_some {state : σ} (row : state ∈ table.states) :
    table.indexOf? state = some (table.states.idxOf state) := by
  have found : (table.rows.map (·.1)).findIdx? (· == state) = some (table.states.idxOf state) :=
    List.findIdx?_eq_some_of_exists ⟨state, row, beq_self_eq_true state⟩
  rw [List.findIdx?_map] at found
  exact found

/-- The name of a state is its number among the rows. -/
def numberOf (table : Table σ) (state : σ) : State := .number (table.states.idxOf state)

omit [DecidableEq τ] in
theorem apart_numberOf : table.Apart table.numberOf := by
  intro state other row same
  have same : table.states.idxOf other = table.states.idxOf state := by
    have := State.number.inj same
    omega
  exact ((List.idxOf_inj row).mp same).symm

omit [DecidableEq τ] in
theorem states_numbered (distinct : table.states.Nodup) :
    table.states.map table.numberOf = (List.range table.rows.length).map fun n => .number n := by
  have length : table.states.length = table.rows.length := List.length_map _
  refine List.ext_getElem (by simp [length]) fun n bound _ => ?_
  rw [List.length_map] at bound
  simp [numberOf, distinct.idxOf_getElem n bound]

theorem mapM_eq_some_map {α β : Type} {step : α → Option β}
    {result : α → β} {items : List α}
    (each : ∀ item ∈ items, step item = some (result item)) :
    items.mapM step = some (items.map result) := by
  induction items with
  | nil => rfl
  | cons item items ih =>
      rcases List.forall_mem_cons.mp each with ⟨first, others⟩
      rw [List.mapM_cons, first, ih others]
      rfl

omit [DecidableEq τ] in
theorem number_eq_some {state : σ} (row : state ∈ table.states) :
    ((table.indexOf? state).map fun (n : Nat) => .number n) = some (table.numberOf state) := by
  rw [indexOf?_eq_some row]
  rfl

omit [DecidableEq τ] in
/-- The row of a table can be numbered if all states that it mentions have rows. -/
theorem numbered_row (row : Row σ)
    (member : ∀ entry ∈ row, ∀ target, entry.2 = .shift target →
    target ∈ table.states) : row.mapM (fun (symbol, action) => do
      match action with
      | .shift target =>
        return (symbol, Action.shift (← (table.indexOf? target).map fun (n : Nat) => .number n))
      | .reduce rule => return (symbol, .reduce rule)) = some (row.rename table.numberOf) := by
  refine mapM_eq_some_map fun entry inside => ?_
  rcases entry with ⟨symbol, action⟩
  cases action with
  | reduce rule => rfl
  | shift target =>
      dsimp only
      rw [number_eq_some (member _ inside target rfl)]
      rfl

omit [DecidableEq τ] in
/-- The states of a table that mentions no others can be numbered. -/
theorem renumbered?_eq_some (complete : table.Complete) :
    table.renumbered? = some (table.mapStates table.numberOf) := by
  have numbered {start : String} {state : σ} (row : state ∈ table.states) :
      (do return (start, ← (table.indexOf? state).map fun (n : Nat) => .number n)) =
        some (start, table.numberOf state) := by
    rw [number_eq_some row]
    rfl
  unfold renumbered?
  refine Option.bind_eq_some_iff.mpr
    ⟨table.rows.map fun row => (table.numberOf row.1, row.2.rename table.numberOf),
      mapM_eq_some_map fun entry member => ?_, Option.bind_eq_some_iff.mpr
        ⟨table.starts.map fun start => (start.1, table.numberOf start.2),
          mapM_eq_some_map fun start member => numbered (complete.starts start member),
          Option.bind_eq_some_iff.mpr
            ⟨table.ends.map fun ending => (ending.1, table.numberOf ending.2),
              mapM_eq_some_map fun ending member =>
              numbered (complete.ends ending member), ?_⟩⟩⟩
  · rcases entry with ⟨state, row⟩
    refine Option.bind_eq_some_iff.mpr ⟨_, numbered_row row (complete.targets _ member), ?_⟩
    dsimp only
    rw [@number_eq_some _ _ _ state (List.mem_map_of_mem member)]
    rfl
  · rw [← rows_mapStates]
    rfl

omit [DecidableEq τ] in
/-- To number the states of a table changes nothing but their names. The states are numbered in the
order of their rows and entries keep their places, and from any start symbol and with any tokens a
parse goes through the same stacks under other names, with the same values, outcomes and terminals
that would be accepted. -/
theorem renumbering_renames (distinct : table.states.Nodup) (complete : table.Complete) :
    ∃ f : σ → State, table.renumbered? = some (table.mapStates f) ∧
      (table.mapStates f).states = (List.range table.rows.length).map (fun n => .number n) ∧
      Set.InjOn f {state | state ∈ table.states} ∧
      ∀ {ω ε : Type} {m : Type → Type} [Monad m] [LawfulMonad m]
        (effects : Token → Effects m State ω ε) (start : String),
        assoc? (table.mapStates f).starts start = (assoc? table.starts start).map f ∧
        assoc? (table.mapStates f).ends start = (assoc? table.ends start).map f ∧
        ∀ starting ending, assoc? table.starts start = some starting →
          assoc? table.ends start = some ending → ∀ calls : List (Token × Bool),
            (table.mapStates f).feedEach effects (f ending) calls ⟨[f starting], []⟩ =
              List.map (Fed.rename f) <$>
                table.feedEach (fun token => (effects token).renaming f) ending calls
                  ⟨[starting], []⟩ := by
  refine ⟨table.numberOf, renumbered?_eq_some complete, ?_,
    fun state _ other row => apart_numberOf state other row,
    fun effects start => ⟨assoc?_mapStates _ _ _, assoc?_mapStates _ _ _, ?_⟩⟩
  · rw [states_mapStates, states_numbered distinct]
  · intro starting ending _ ends calls
    exact feedEach_rename apart_numberOf effects (complete.ends _ (mem_of_assoc? ends)) calls
      ⟨[starting], []⟩

/-- The table of a single word, with states that go by names. -/
def wordTable : Table String where
  rows := [("ready", [("WORD", .shift "full"), ("start", .shift "done")]),
    ("full", [("$END", .reduce { origin := "start", expansion := [.terminal "WORD" false] })]),
    ("done", [])]
  starts := [("start", "ready")]
  ends := [("start", "done")]

/-- A word and the end of the input lead through the same states under their numbers. -/
theorem renumbering_renames_word :
    ∃ table : Table State, wordTable.renumbered? = some table ∧
      (show List (Fed State Unit Fault) from
        (table.feedEach (fun _ => silently fun _ _ => ()) (.number 2)
          [({ kind := "WORD", text := "a" }, false), ({ kind := "$END", text := "" }, true)]
          ⟨[.number 0], []⟩ : Id _)).map (fun fed => (fed.stack.states, fed.stack.values)) =
        [([.number 1, .number 0], [()]), ([.number 2, .number 0], [()])] := by
  have complete : wordTable.Complete := by
    refine ⟨?_, by decide, by decide⟩
    have targets : ∀ row ∈ wordTable.rows, ∀ entry ∈ row.2,
        (match entry.2 with | .shift target => [target] | .reduce _ => []) ⊆
          wordTable.states := by decide
    intro row member entry within target shifts
    have within := targets row member entry within
    rw [shifts] at within
    exact within List.mem_cons_self
  rcases renumbering_renames (by decide) complete with ⟨f, renumbered, numbers, -, runs⟩
  have numbers : [f "ready", f "full", f "done"] = [.number 0, .number 1, .number 2] := numbers
  simp only [List.cons.injEq, and_true] at numbers
  rcases numbers with ⟨ready, full, done⟩
  have run := (runs (m := Id) (fun _ => silently fun _ _ => ()) "start").2.2 "ready" "done" rfl rfl
    [({ kind := "WORD", text := "a" }, false), ({ kind := "$END", text := "" }, true)]
  rw [ready, done] at run
  refine ⟨_, renumbered,
    (congrArg (List.map fun fed => (fed.stack.states, fed.stack.values)) run).trans ?_⟩
  rw [← ready, ← full, ← done]
  rfl

end Table

end Lalr
