import Lalr.Artifact.Stored

/-!
# Reading stored objects

An object is read from the fields it is stored with and from no others. A record
with a reference stands for an object of the memo, a table of objects that are
stored once and used in many places.
-/

namespace Lalr

/-- The objects that references stand for. -/
abbrev Memo := List (Int × Stored)

namespace Stored

/-- What a missing field is taken to be. -/
def defaultOf : ObjectKind → String → Stored
  | .terminalSymbol, "filter_out" => .plain (.bool false)
  | .ruleOptions, "keep_all_tokens" => .plain (.bool false)
  | .ruleOptions, "expand1" => .plain (.bool false)
  | .ruleOptions, "empty_indices" => .list []
  | .rule, "order" => .plain (.int 0)
  | .literal, "flags" => .list []
  | .expression, "flags" => .list []
  | .terminal, "priority" => .plain (.int 0)
  | .lexerSettings, "ignore" => .list []
  | .lexerSettings, "g_regex_flags" => .plain (.int 0)
  | .parserSettings, "parser_type" => .plain (.text "lalr")
  | _, _ => .plain .null

/-- A field that has to be a sequence, as a list. -/
def settleList (kind : ObjectKind) (value : Stored) : Except Failure Stored :=
  match value.elements? with
  | some items => .ok (.list items)
  | none => .error (.grammar (.malformed kind.name))

/-- Whether flags that are not all texts can be put in order: they are numbers, or there is just
one. -/
def isOrderable (items : List Stored) : Bool :=
  items.length == 1 || items.all fun item => item.asNumber?.isSome

/-- The flags of a pattern, sorted. -/
def settleFlags (kind : ObjectKind) (value : Stored) : Except Failure Stored := do
  match value.elements? with
  | none => throw (.grammar (.malformed kind.name))
  | some items =>
    unless items.all isKey do throw (.grammar (.malformed kind.name))
    match items.mapM asText? with
    | none =>
      if isOrderable items then throw (.fault .missingPart)
      else throw (.grammar (.malformed kind.name))
    | some letters => return .list ((sortedSet letters).map fun letter => .plain (.text letter))

/-- The options of a rule that has none. -/
def noOptions : Stored :=
  .object .ruleOptions (ObjectKind.ruleOptions.fields.map fun name =>
    (name, defaultOf .ruleOptions name))

/-- A field of an object in the form in which the object holds it. -/
def settleField (kind : ObjectKind) (name : String) (value : Stored) : Except Failure Stored :=
  match kind, name with
  | .ruleOptions, "empty_indices" => settleList kind value
  | .rule, "expansion" => settleList kind value
  | .rule, "options" => .ok (if value.holds then value else noOptions)
  | .literal, "flags" => settleFlags kind value
  | .expression, "flags" => settleFlags kind value
  | .lexerSettings, "terminals" => settleList kind value
  | .lexerSettings, "ignore" => settleList kind value
  | .parserSettings, "rules" => settleList kind value
  | .parserSettings, "start" =>
    match value.asText? with
    | some _ => .ok (.list [value])
    | none => settleList kind value
  | _, _ => .ok value

/-- The pair of numbers that a stored width is. -/
def settleWidth : Data → Except Failure (Option Stored)
  | .null => .ok none
  | data =>
    match data.elements? with
    | some [least, most] => .ok (some (.list [.plain least, .plain most]))
    | some _ => .error (.fault .malformedValue)
    | none => .error (.fault .wrongKind)

/-- Checks what an object of a kind demands of its fields. -/
def check (kind : ObjectKind) (fields : List (String × Stored)) : Except Failure Unit := do
  match kind with
  | .rule =>
    let parts := (assoc? fields "origin").toList
      ++ ((assoc? fields "expansion").bind elements?).getD []
    unless parts.all isKey do throw (.grammar (.malformed kind.name))
  | .terminal =>
    unless (assoc? fields "pattern").any (isObject [.literal, .expression]) do
      throw (.fault .brokenPromise)
  | .literal | .expression =>
    let letters := (((assoc? fields "flags").bind elements?).getD []).filterMap asText?
    let value := ((assoc? fields "value").bind asText?).getD ""
    discard (Pattern.make (if kind = .literal then .literal else .expression) value letters)
  | _ => pure ()

/-- Makes an object from the fields that were found. -/
def make (kind : ObjectKind) (found : List (String × Stored)) (width : Data) :
    Except Failure Stored := do
  unless kind.required.all fun name => (assoc? found name).isSome do
    throw (.grammar (.malformed kind.name))
  let fields ← kind.fields.mapM fun name => do
    match assoc? found name with
    | some value => return (name, ← settleField kind name value)
    | none => return (name, defaultOf kind name)
  let fields ←
    match assoc? fields "options" with
    | some options =>
      pure (Data.put fields "options" (if options.holds then options else noOptions))
    | none => pure fields
  check kind fields
  if kind = .expression then
    match ← settleWidth width with
    | some width => return .object kind (fields ++ [("_width", width)])
    | none => return .object kind fields
  else return .object kind fields

/-- The object that a reference stands for. -/
def resolve (memo : Memo) (reference : Data) : Except Failure Stored := do
  let dangling : Except Failure Stored := throw (.grammar (.danglingReference reference))
  let find (index : Int) : Except Failure Stored :=
    match assoc? memo index with
    | some stored => .ok stored
    | none => dangling
  match reference with
  | .text text =>
    match Numeral.int? text with
    | some index => find index
    | none => dangling
  | .int index => find index
  | .bool value => find (if value then 1 else 0)
  | .decimal mantissa exponent =>
    if 0 ≤ exponent then find (mantissa * Nat.pow 10 exponent.toNat)
    else find (mantissa.tdiv (Nat.pow 10 (-exponent).toNat))
  | _ => throw (.fault .wrongKind)

/-- What fields have been read, each in its turn. -/
def inTurn (fields : List (String × Except Failure Stored)) :
    Except Failure (List (String × Stored)) :=
  fields.mapM fun (name, value) => do return (name, ← value)

mutual

/-- What data stands for, where objects of the kinds `known` may stand. -/
def read (memo : Memo) (known : List ObjectKind) : Data → Except Failure Stored
  | .record fields =>
    match Data.lookup fields "__type__" with
    | some (.text name) =>
      match ObjectKind.find? known name with
      | none => .error (.grammar (.unexpectedType (.text name)))
      | some kind => do
        let values := readFields memo kind.contents fields
        let wanted := kind.fields.filterMap fun name =>
          (assoc? values name).map fun value => (name, value)
        make kind (← inTurn wanted) ((Data.lookup fields "_width").getD .null)
    | some (.list _) => .error (.fault .wrongKind)
    | some (.record _) => .error (.fault .wrongKind)
    | some name => .error (.grammar (.unexpectedType name))
    | none =>
      match Data.lookup fields "@" with
      | some reference => resolve memo reference
      | none => do return .record (← inTurn (readFields memo known fields))
  | .list items => do return .list (← readItems memo known items)
  | data => .ok (.plain data)

/-- What the items of a list stand for. -/
def readItems (memo : Memo) (known : List ObjectKind) : List Data → Except Failure (List Stored)
  | [] => .ok []
  | item :: rest => do
    let item ← read memo known item
    return item :: (← readItems memo known rest)

/-- What the fields of a record stand for, each by itself. -/
def readFields (memo : Memo) (known : List ObjectKind) :
    List (String × Data) → List (String × Except Failure Stored)
  | [] => []
  | (name, value) :: rest => (name, read memo known value) :: readFields memo known rest

end

/-- An entry of a memo. Its value may hold terminals and rules, but no references. -/
def readEntry (entry : String × Data) : Except Failure (Int × Stored) := do
  match Numeral.int? entry.1 with
  | none => throw (.fault .malformedValue)
  | some index => return (index, ← read [] [.terminal, .rule] entry.2)

/-- The objects of a stored memo. -/
def readMemo (data : Data) : Except Failure Memo := do
  match data with
  | .record entries =>
    match entries.mapM readEntry with
    | .ok memo => return Data.settle memo
    | .error (.fault .malformedValue) => throw (.grammar (.malformed "memo table"))
    | .error failure => throw failure
  | _ => throw (.fault .missingPart)

end Stored

/-- A field that stored data cannot do without. -/
def Data.demand (data : Data) (name owner : String) : Except Failure Data :=
  match data.field? name with
  | some value => .ok value
  | none => .error (.grammar (.missingField owner name))

end Lalr
