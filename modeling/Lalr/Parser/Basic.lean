import Lalr.Machine.Feed
import Lalr.Parser.Options

/-!
# Parsers

A parser is a grammar made ready: its options, its table, what it does on each
reduction, and where its tokens come from. Nothing in it changes while it
parses.
-/

namespace Lalr

/-- A parser. `whole` cuts texts into tokens without regard to a parse, and `wholeKeeping` does so
without ignoring any. -/
structure Parser where
  options : Options
  terminals : List Terminal
  rules : List Rule
  ignored : List String
  table : Table State
  reductions : Reductions
  source : TokenSource
  whole : Lexer
  wholeKeeping : Lexer

namespace Parser

/-- Checks that the table knows a start symbol. -/
def checkStart (table : Table State) (start : Data) : Except Failure Unit :=
  let unknown : Failure :=
    .grammar (.unknownStart start (sortedSet (table.starts.map (·.1))))
  match start with
  | .text name =>
    if (assoc? table.starts name).isSome && (assoc? table.ends name).isSome then .ok ()
    else .error unknown
  | .list _ => .error (.fault .wrongKind)
  | .record _ => .error (.fault .wrongKind)
  | _ => .error unknown

/-- How trees are built under some options. -/
def growth (options : Options) (transformer : Option Transformer) : Growth where
  nodes := options.nodes
  propagation := options.propagation
  placeholders := options.placeholders.holds
  transformer := transformer

/-- Something that has turned out to be unusable as a failure. -/
def usable {α : Type} (value : Except Fault α) : Except Failure α := value.mapError .fault

/-- Where the tokens of a parse come from, and how many lexers that takes. -/
def makeSource (options : Options) (settings : LexerSettings) (table : Table State)
    (number : Nat) : Except Failure (TokenSource × Nat) := do
  if options.contextual then
    let postLexer ← usable options.postLexer
    let states := table.rows.map fun (state, row) => (state, row.map (·.1))
    let alwaysAccepted := (postLexer.map PostLexer.alwaysAccepted).getD []
    let (lexer, count) ← ContextualLexer.make number settings states alwaysAccepted
    return ({ reader := .contextual lexer, postLexer }, count + 1)
  else
    let lexer ← Lexer.make number settings
    return ({ reader := .basic lexer, postLexer := ← usable options.postLexer }, 1)

/-- The parser of a grammar. -/
def make (terminals : List Terminal) (rules : List Rule) (table : Table State)
    (ignored : List Data) (options : Options) : Run Parser := do
  for start in options.starts do
    Run.lift (checkStart table start)
  let transformer ← Run.lift (usable options.transformer)
  let reductions ←
    Run.lift (Reductions.make (growth options transformer) rules (terminals.map Terminal.name))
  let callbacks ← Run.lift (usable options.callbacks)
  let flags ← Run.lift (if terminals.isEmpty then .ok {} else usable options.regexFlags)
  let strays := ignored.filter fun name => name.asText?.isNone
  let ignored := ignored.filterMap Data.asText?
  let settings : LexerSettings := { terminals, ignored, strays, callbacks, flags }
  let number := (← get).lexerCount
  let (source, count) ← Run.lift (makeSource options settings table number)
  match source.reader with
  | .contextual lexer =>
    Work.record .debug .lexer fun _ =>
      "Contextual lexer: " ++ toString lexer.lexers.length ++ " states share "
        ++ toString (count - 1) ++ " lexers"
  | .basic _ => pure ()
  let whole ← Run.lift (Lexer.make (number + count) settings)
  let wholeKeeping ← Run.lift
      (Lexer.make (number + count + 1) { settings with ignored := [], strays := [] })
  modify fun workspace => { workspace with lexerCount := number + count + 2 }
  Work.record .debug .general fun _ =>
    "Loaded grammar: " ++ toString terminals.length ++ " terminals, "
      ++ toString rules.length ++ " rules, " ++ toString table.rows.length ++ " states"
  return { options, terminals, rules, ignored, table, reductions, source, whole, wholeKeeping }

/-- The parser as messages show it. -/
def shown (parser : Parser) : String :=
  "Parser(start=" ++ (Data.list parser.options.starts).shown ++ ", lexer="
    ++ Text.quoted (if parser.options.contextual then "contextual" else "basic") ++ ")"

/-- The terminal of a name. -/
def terminal (parser : Parser) (name : String) : Except Failure Terminal :=
  match parser.terminals.reverse.find? (·.name == name) with
  | some terminal => .ok terminal
  | none => .error (.fault .missingEntry)

/-- The tokens of a text, where no parse is going on. -/
def tokens (parser : Parser) (text : String) (keepIgnored : Bool) (limit : Nat) :
    Work Drained :=
  let lexer := if keepIgnored then parser.wholeKeeping else parser.whole
  let source : TokenSource := { parser.source with reader := .basic lexer }
  source.drain limit {} (.ofText text)

/-- The start symbol to use where one is asked for or not. -/
def chooseStart (parser : Parser) (start : Option String) : Except Failure String :=
  match start with
  | some start =>
    if parser.options.starts.contains (.text start) then .ok start
    else .error (.configuration (.unknownStart start parser.options.starts))
  | none =>
    match parser.options.starts with
    | [.text start] => .ok start
    | [] | [_] => .error (.fault .malformedValue)
    | starts => .error (.configuration (.severalStarts starts))

end Parser

end Lalr
