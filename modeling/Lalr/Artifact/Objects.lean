import Lalr.Artifact.Reader

/-!
# Stored objects and what they stand for

The patterns, terminals and rules that stored objects stand for, and the data
that objects are stored as.
-/

namespace Lalr

namespace Stored

/-- The text in a field. -/
def textField (stored : Stored) (name : String) : Except Failure String :=
  match (stored.field? name).bind asText? with
  | some text => .ok text
  | none => .error (.fault .wrongKind)

/-- The number in a field. -/
def numberField? (stored : Stored) (name : String) : Option Int :=
  (stored.field? name).bind asNumber?

/-- The least width that this stands for. All that matters of what is no count is that it is not
zero. -/
def asLeast (stored : Stored) : Nat :=
  match stored.asNumber? with
  | some value => if 0 ≤ value then value.toNat else 1
  | none => 1

/-- The pattern that an object stands for. -/
def toPattern (stored : Stored) : Except Failure Pattern := do
  match stored with
  | .object kind _ =>
    let value ← stored.textField "value"
    let letters := (((stored.field? "flags").bind elements?).getD []).filterMap asText?
    let raw := (stored.field? "raw").bind asText?
    match kind with
    | .literal => Pattern.make .literal value letters raw
    | .expression =>
      match stored.field? "_width" with
      | some (.list [least, most]) =>
        let some most := most.asNumber? | throw (.fault .wrongKind)
        Pattern.make .expression value letters raw (some ⟨least.asLeast, most.toNat⟩)
      | _ => Pattern.make .expression value letters raw
    | _ => throw (.fault .missingPart)
  | _ => throw (.fault .missingPart)

/-- The terminal that an object stands for. -/
def toTerminal (stored : Stored) : Except Failure Terminal := do
  unless stored.isObject [.terminal] do throw (.fault .missingPart)
  match stored.field? "pattern", stored.numberField? "priority" with
  | some pattern, some priority =>
    return { name := ← stored.textField "name", pattern := ← pattern.toPattern, priority }
  | _, _ => throw (.fault .wrongKind)

/-- The symbol that an object stands for. -/
def toSymbol (stored : Stored) : Except Failure Symbol := do
  match stored with
  | .object .terminalSymbol _ =>
    return .terminal (← stored.textField "name") ((stored.field? "filter_out").any holds)
  | .object .nonterminalSymbol _ =>
    return .nonterminal (← (stored.textField "name").mapError fun _ => .fault .missingPart)
  | _ => throw (.fault .missingPart)

/-- The options that an object stands for. -/
def toOptions (stored : Stored) : Except Failure RuleOptions := do
  unless stored.isObject [.ruleOptions] do throw (.fault .missingPart)
  return {
    keepAllTokens := (stored.field? "keep_all_tokens").any holds
    expandSingle := (stored.field? "expand1").any holds
    priority := stored.numberField? "priority"
    templateSource := (stored.field? "template_source").bind asText?
    emptyIndices := (((stored.field? "empty_indices").bind elements?).getD []).map holds }

/-- The rule that an object stands for, with given options. -/
def toRuleWith (stored : Stored) (options : RuleOptions) : Except Failure Rule := do
  unless stored.isObject [.rule] do throw (.fault .missingPart)
  match stored.field? "origin" with
  | none => throw (.fault .missingPart)
  | some origin =>
    let expansion := ((stored.field? "expansion").bind elements?).getD []
    return {
      origin := (← origin.toSymbol).name
      expansion := ← expansion.mapM toSymbol
      order := (stored.numberField? "order").getD 0
      byname := (stored.field? "alias").bind asText?
      options }

/-- The rule that an object stands for. -/
def toRule (stored : Stored) : Except Failure Rule := do
  match stored.field? "options" with
  | some options => stored.toRuleWith (← options.toOptions)
  | none => throw (.fault .missingPart)

/-- The rule that an object stands for as far as a table needs it. Options that are none are passed
over. -/
def toTableRule (stored : Stored) : Except Failure Rule :=
  let options := (stored.field? "options").bind fun options => options.toOptions.toOption
  stored.toRuleWith (options.getD {})

mutual

/-- This as messages show it. -/
def shown : Stored → String
  | .plain data => data.shown
  | .list items => "[" ++ Text.joinWith ", " (shownItems items) ++ "]"
  | .record fields => "\x7b" ++ Text.joinWith ", " (shownFields fields) ++ "\x7d"
  | .object kind fields =>
    match kind with
    | .terminal =>
      match (object kind fields).toTerminal with
      | .ok terminal => terminal.shown
      | .error _ => "TerminalDef(...)"
    | .rule =>
      match (object kind fields).toTableRule with
      | .ok rule => rule.shown
      | .error _ => "Rule(...)"
    | kind => kind.name ++ "(...)"

/-- Some of these as messages show them. -/
def shownItems : List Stored → List String
  | [] => []
  | item :: rest => item.shown :: shownItems rest

/-- Some fields as messages show them. -/
def shownFields : List (String × Stored) → List String
  | [] => []
  | (name, value) :: rest => (Text.quoted name ++ ": " ++ value.shown) :: shownFields rest

end

/-- The field with the width of an expression, which has been found out unless it came with the
expression. -/
def widthField (kind : ObjectKind) (fields : List (String × Stored)) :
    Except Failure (List (String × Data)) := do
  match kind, assoc? fields "_width" with
  | .expression, none =>
    let width ← (← (object kind fields).toPattern).width
    return [("_width", .list [.int width.least, .int width.most])]
  | _, _ => return []

mutual

/-- The data that this is stored as. -/
def toData : Stored → Except Failure Data
  | .plain data => .ok data
  | .list items => do return .list (← itemsToData items)
  | .record fields => do return .record (← fieldsToData fields)
  | .object kind fields => do
    let (stored, own) := (← fieldsToData fields).partition (·.1 == "_width")
    let width ← widthField kind fields
    return .record (own ++ [("__type__", .text kind.name)] ++ stored ++ width)

/-- The data that some of these are stored as. -/
def itemsToData : List Stored → Except Failure (List Data)
  | [] => .ok []
  | item :: rest => do return (← item.toData) :: (← itemsToData rest)

/-- The data that some fields are stored as. -/
def fieldsToData : List (String × Stored) → Except Failure (List (String × Data))
  | [] => .ok []
  | (name, value) :: rest => do return (name, ← value.toData) :: (← fieldsToData rest)

end

end Stored

/-- A type as it stands at the end of a stored object. -/
def typeField (kind : ObjectKind) : String × Data := ("__type__", .text kind.name)

/-- An optional text as data. -/
def optionalText : Option String → Data
  | some text => .text text
  | none => .null

/-- The data that a pattern is stored as. -/
def Pattern.toData (pattern : Pattern) : Except Failure Data := do
  let fields :=
    [("value", .text pattern.value),
      ("flags", .list (pattern.flags.letters.map Data.text)),
      ("raw", optionalText pattern.raw)]
  match pattern.kind with
  | .literal => return .record (fields ++ [typeField .literal])
  | .expression =>
    let width ← pattern.width
    return .record (fields ++ [typeField .expression,
      ("_width", .list [.int width.least, .int width.most])])

/-- The data that a terminal is stored as. -/
def Terminal.toData (terminal : Terminal) : Except Failure Data := do
  return .record [("name", .text terminal.name), ("pattern", ← terminal.pattern.toData),
    ("priority", .int terminal.priority), typeField .terminal]

/-- The data that a symbol is stored as. -/
def Symbol.toData : Symbol → Data
  | .terminal name filteredOut =>
    .record [("name", .text name), ("filter_out", .bool filteredOut), typeField .terminalSymbol]
  | .nonterminal name => .record [("name", .text name), typeField .nonterminalSymbol]

/-- The data that the options of a rule are stored as. -/
def RuleOptions.toData (options : RuleOptions) : Data :=
  .record [("keep_all_tokens", .bool options.keepAllTokens),
    ("expand1", .bool options.expandSingle),
    ("priority",
      match options.priority with
      | some priority => .int priority
      | none => .null),
    ("template_source", optionalText options.templateSource),
    ("empty_indices", .list (options.emptyIndices.map Data.bool)),
    typeField .ruleOptions]

/-- The data that a rule is stored as. -/
def Rule.toData (rule : Rule) : Data :=
  .record [("origin", (Symbol.nonterminal rule.origin).toData),
    ("expansion", .list (rule.expansion.map Symbol.toData)),
    ("order", .int rule.order),
    ("alias", optionalText rule.byname),
    ("options", rule.options.toData),
    typeField .rule]

end Lalr
