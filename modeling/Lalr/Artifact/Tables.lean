import Lalr.Artifact.Register

/-!
# Stored tables

A table is stored with its symbols numbered in the order in which they are first
met. Numbers that name fields are stored as texts, and states that look like
numbers are numbers again when the table is read.
-/

namespace Lalr

namespace Table

/-- The number of a symbol. A symbol that is met for the first time gets the next number. -/
def symbolNumber (name : String) : StateM (List String) Nat :=
  modifyGet fun names =>
    match names.findIdx? (· == name) with
    | some index => (index, names)
    | none => (names.length, names ++ [name])

/-- The data that an action is stored as. -/
def actionToData : Action State → Registering Data
  | .shift target => return .list [.int 0, target.toData]
  | .reduce rule => return .list [.int 1, ← Register.enter (.rule rule)]

/-- The name that a state has in stored data. -/
def stateName (state : State) : String :=
  match state with
  | .name name => name
  | .number number => toString number
  | .other data => data.plain

/-- The data that a row is stored as. -/
def rowToData (row : Row State) : StateT (List String) Registering Data := do
  let fields ← row.mapM fun (symbol, action) => do
    let number : Nat ← modifyGet fun names => (symbolNumber symbol).run names
    return (toString number, ← actionToData action)
  return .record fields

/-- The states of some start symbols as data. -/
def statesToData (states : List (String × State)) : Data :=
  .record (states.map fun (start, state) => (start, state.toData))

/-- The data that a table is stored as. -/
def toData (table : Table State) : Registering Data := do
  let rows : StateT (List String) Registering (List (String × Data)) :=
    table.rows.mapM fun (state, row) => return (stateName state, ← rowToData row)
  let (rows, names) ← rows.run []
  let symbols := (List.range names.length).zip names |>.map fun (index, name) =>
    (toString index, Data.text name)
  return .record [("tokens", .record symbols), ("states", .record rows),
    ("start_states", statesToData table.starts), ("end_states", statesToData table.ends)]

/-- The fields of a record. -/
def fieldsOf (data : Data) : Except Failure (List (String × Data)) :=
  match data with
  | .record fields => .ok fields
  | _ => .error (.fault .missingPart)

/-- A state that stored data stands for. -/
def readState (data : Data) : Except Failure State :=
  match State.ofData? data with
  | some state => .ok state
  | none => .error (.fault .malformedValue)

/-- The name of a symbol. -/
def readName (data : Data) : Except Failure String :=
  match data with
  | .text name => .ok name
  | _ => .error (.fault .wrongKind)

/-- The symbols of a table by number, stored as a list or as a record. -/
def readSymbols (data : Data) : Except Failure (List (Int × String)) := do
  match data with
  | .list names =>
    let names ← names.mapM readName
    return (List.range names.length).zip names |>.map fun (index, name) => ((index : Int), name)
  | data =>
    let entries ← (← fieldsOf data).mapM fun (index, name) => do
      match Numeral.int? index with
      | some index => return (index, ← readName name)
      | none => throw (.fault .malformedValue)
    return Data.settle entries

/-- The symbol of a number. -/
def readSymbol (symbols : List (Int × String)) (index : String) : Except Failure String :=
  match (Numeral.int? index).bind (assoc? symbols) with
  | some name => .ok name
  | none => .error (.grammar (.unknownToken index))

/-- An action that stored data stands for. -/
def readAction (memo : Memo) (raw : Data) : Except Failure (Action State) := do
  match raw.elements? with
  | some [kind, argument] =>
    if kind.isNumber 0 then return .shift (← readState argument)
    else if kind.isNumber 1 then
      let stored ← Stored.read memo [.rule] argument
      if stored.isObject [.rule] then return .reduce (← stored.toTableRule)
      else throw (.grammar (.notRule stored.shown))
    else throw (.grammar (.unknownAction kind))
  | _ => throw (.grammar (.malformedAction raw))

/-- A row that stored data stands for. -/
def readRow (memo : Memo) (symbols : List (Int × String)) (data : Data) :
    Except Failure (Row State) := do
  let entries ← (← fieldsOf data).mapM fun (index, action) => do
    return (← readSymbol symbols index, ← readAction memo action)
  return Data.settle entries

/-- The states of some start symbols that stored data stands for. -/
def readStates (data : Data) : Except Failure (List (String × State)) := do
  (← fieldsOf data).mapM fun (start, state) => return (start, ← readState state)

/-- The table that stored data stands for. -/
def read (memo : Memo) (data : Data) : Except Failure (Table State) := do
  let symbols ← readSymbols (← data.demand "tokens" "parse table")
  let rows ← (← fieldsOf (← data.demand "states" "parse table")).mapM fun (state, row) => do
    return (← readState (.text state), ← readRow memo symbols row)
  let starts ← readStates (← data.demand "start_states" "parse table")
  let ends ← readStates (← data.demand "end_states" "parse table")
  return { rows := Data.settle rows, starts, ends }

end Table

end Lalr
