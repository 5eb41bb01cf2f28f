import Lalr.Lexer.Pattern

/-!
# Stored objects

A compiled grammar is stored as plain data in which records with a type stand for
objects. Reading gives a tree of objects, lists and records whose fields have
been checked as far as making the object needs it. What its fields hold may
still be anything.
-/

namespace Lalr

/-- The kinds of objects that are stored. -/
inductive ObjectKind where
  | terminalSymbol
  | nonterminalSymbol
  | ruleOptions
  | rule
  | literal
  | expression
  | terminal
  | lexerSettings
  | parserSettings
  deriving DecidableEq, Repr, Inhabited

namespace ObjectKind

/-- All kinds. -/
def all : List ObjectKind :=
  [.terminalSymbol, .nonterminalSymbol, .ruleOptions, .rule, .literal, .expression, .terminal,
    .lexerSettings, .parserSettings]

/-- The name of a kind in stored data. -/
def name : ObjectKind → String
  | .terminalSymbol => "Terminal"
  | .nonterminalSymbol => "NonTerminal"
  | .ruleOptions => "RuleOptions"
  | .rule => "Rule"
  | .literal => "PatternStr"
  | .expression => "PatternRE"
  | .terminal => "TerminalDef"
  | .lexerSettings => "LexerConf"
  | .parserSettings => "ParserConf"

/-- The fields that objects of a kind are stored with. -/
def fields : ObjectKind → List String
  | .terminalSymbol => ["name", "filter_out"]
  | .nonterminalSymbol => ["name"]
  | .ruleOptions => ["keep_all_tokens", "expand1", "priority", "template_source", "empty_indices"]
  | .rule => ["origin", "expansion", "order", "alias", "options"]
  | .literal => ["value", "flags", "raw"]
  | .expression => ["value", "flags", "raw"]
  | .terminal => ["name", "pattern", "priority"]
  | .lexerSettings => ["terminals", "ignore", "g_regex_flags", "lexer_type"]
  | .parserSettings => ["rules", "start", "parser_type"]

/-- The fields that an object cannot be made without. -/
def required : ObjectKind → List String
  | .terminalSymbol => ["name"]
  | .nonterminalSymbol => ["name"]
  | .ruleOptions => []
  | .rule => ["origin", "expansion"]
  | .literal => ["value"]
  | .expression => ["value"]
  | .terminal => ["name", "pattern"]
  | .lexerSettings => ["terminals"]
  | .parserSettings => ["rules", "start"]

/-- The kinds of objects that may stand inside an object of a kind. -/
def contents : ObjectKind → List ObjectKind
  | .rule => [.terminalSymbol, .nonterminalSymbol, .ruleOptions]
  | .terminal => [.literal, .expression]
  | .lexerSettings => [.terminal]
  | .parserSettings => [.rule]
  | _ => []

/-- The kind of a name among those that are known. -/
def find? (known : List ObjectKind) (name : String) : Option ObjectKind :=
  known.find? fun kind => kind.name == name

end ObjectKind

/-- What stored data stands for. -/
inductive Stored where
  | plain (data : Data)
  | list (items : List Stored)
  | record (fields : List (String × Stored))
  | object (kind : ObjectKind) (fields : List (String × Stored))
  deriving Inhabited

namespace Stored

/-- A field of an object or a record. -/
def field? (stored : Stored) (name : String) : Option Stored :=
  match stored with
  | .object _ fields => assoc? fields name
  | .record fields => assoc? fields name
  | _ => none

/-- The text, if that is all there is. -/
def asText? : Stored → Option String
  | .plain (.text text) => some text
  | _ => none

/-- The number, if that is all there is. -/
def asNumber? : Stored → Option Int
  | .plain (.int value) => some value
  | .plain (.bool value) => some (if value then 1 else 0)
  | _ => none

/-- Whether a condition holds: null, false, zero and whatever is empty do not. -/
def holds : Stored → Bool
  | .plain data => data.holds
  | .list items => !items.isEmpty
  | .record fields => !fields.isEmpty
  | .object _ _ => true

/-- What goes by when this is run through item by item. -/
def elements? : Stored → Option (List Stored)
  | .plain data => data.elements?.map (·.map plain)
  | .list items => some items
  | .record fields => some (fields.map fun entry => plain (.text entry.1))
  | .object _ _ => none

/-- Whether this can be a key: lists and records cannot, and neither can a symbol or a terminal that
is named by one. -/
def isKey : Stored → Bool
  | .plain _ => true
  | .list _ => false
  | .record _ => false
  | .object kind fields =>
    match kind with
    | .terminalSymbol | .nonterminalSymbol | .terminal =>
      match assoc? fields "name" with
      | some (.list _) => false
      | some (.record _) => false
      | _ => true
    | _ => true

/-- Whether this is an object of one of some kinds. -/
def isObject (kinds : List ObjectKind) : Stored → Bool
  | .object kind _ => kinds.contains kind
  | _ => false

end Stored

end Lalr
