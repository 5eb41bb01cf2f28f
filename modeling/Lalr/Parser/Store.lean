import Lalr.Artifact.Tables
import Lalr.Parser.Basic

/-!
# Storing parsers

A parser is stored with its terminals, rules and table and with those of its
options that data can say. Loading makes it anew, and some of the options may be
set differently then.
-/

namespace Lalr

namespace Parser

/-- The data that the parts of a parser are stored as. -/
def partsToData (parser : Parser) : Registering Data := do
  let terminals ← parser.terminals.mapM fun terminal => Register.enter (.terminal terminal)
  let rules ← parser.rules.mapM fun rule => Register.enter (.rule rule)
  let table ← parser.table.toData
  let again ← parser.rules.mapM fun rule => Register.enter (.rule rule)
  let lexer := if parser.options.contextual then "contextual" else "basic"
  let settings := .record [("terminals", .list terminals),
    ("ignore", .list (parser.ignored.map Data.text)),
    ("g_regex_flags", parser.options.flags), ("lexer_type", .text lexer),
    typeField .lexerSettings]
  let machine := .record [("rules", .list rules), ("start", .list parser.options.starts),
    ("parser_type", .text "lalr"), typeField .parserSettings]
  let frontend := .record [("lexer_conf", settings), ("parser_conf", machine), ("parser", table),
    ("__type__", .text "ParsingFrontend")]
  return .record [("parser", frontend), ("rules", .list again), ("options", parser.options.toData),
    ("__type__", .text "Parser")]

/-- The data that a parser is stored as. -/
def toData (parser : Parser) : Except Failure Data := do
  let (data, register) := parser.partsToData.run []
  return .record [("data", data), ("memo", ← register.toData)]

/-- The options that were stored, with those that the lexer settings imply. -/
def storedSettings (data : Data) (lexer : Stored) : Except Failure (List (String × Setting)) := do
  let stored ←
    match (data.field? "options").getD (.record []) with
    | .record fields => pure fields
    | .list [] => pure []
    | .text "" => pure []
    | .text _ => throw (.fault .malformedValue)
    | _ => throw (.fault .wrongKind)
  unless lexer.isObject [.lexerSettings] do throw (.fault .missingPart)
  let stored ←
    match lexer.field? "lexer_type" with
    | some (.plain .null) => pure stored
    | some (.plain kind) => pure (Data.put stored "lexer" kind)
    | some other => pure (Data.put stored "lexer" (← other.toData))
    | none => throw (.fault .missingPart)
  let flags :=
    match lexer.field? "g_regex_flags" with
    | some (.plain flags) => flags
    | _ => .null
  let isSet := stored.any fun entry => entry.1 == "g_regex_flags"
  let stored := if flags.holds && !isSet then Data.put stored "g_regex_flags" flags else stored
  return stored.map fun (name, value) => (name, .data value)

/-- The items of a field. -/
def itemsOf (stored : Stored) (name : String) : Except Failure (List Stored) :=
  match (stored.field? name).bind Stored.elements? with
  | some items => .ok items
  | none => .error (.fault .wrongKind)

/-- The parser that stored data stands for, with some options set anew. -/
def load (source : Data) (changes : List (String × Setting)) : Run Parser := do
  unless source.isRecord do throw (.fault .missingPart)
  match sortedSet ((changes.map (·.1)).filter fun name => !Options.resettable.contains name) with
  | [] => pure ()
  | fixed => throw (.configuration (.fixedOptions fixed))
  let data ← Run.lift (source.demand "data" "compiled grammar")
  let memo ← Run.lift (Stored.readMemo ((source.field? "memo").getD (.record [])))
  let frontend ← Run.lift (data.demand "parser" "compiled grammar")
  let lexer ← Run.lift do
    Stored.read memo [.lexerSettings] (← frontend.demand "lexer_conf" "parser")
  let table ← Run.lift do Table.read memo (← frontend.demand "parser" "parser")
  let rules ← Run.lift do Stored.read memo [.rule] (← data.demand "rules" "compiled grammar")
  let settings ← Run.lift (storedSettings data lexer)
  let merged := changes.foldl (fun merged (name, setting) => Data.put merged name setting) settings
  let options ← Options.ofSettings merged true
  let stored ← Run.lift (itemsOf lexer "terminals")
  let terminals ← Run.lift (stored.mapM Stored.toTerminal)
  for start in options.starts do
    Run.lift (checkStart table start)
  let rules ← Run.lift do
    match rules.elements? with
    | some rules => rules.mapM Stored.toRule
    | none => throw (.fault .wrongKind)
  let ignored ← Run.lift do (← itemsOf lexer "ignore").mapM Stored.toData
  make terminals rules table ignored options

end Parser

end Lalr
