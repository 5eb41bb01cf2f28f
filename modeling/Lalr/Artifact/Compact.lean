import Lalr.Data.Access
import Lalr.Lexer.Pattern
import Lalr.Table.Basic

/-!
# Grammars in compact form

Terminals, rules and tables can be written as short lists. A symbol is a text:
its name after `n:` for a nonterminal, after `t:` for a terminal, and after `f:`
for a terminal that is left out of trees.
-/

namespace Lalr

/-- The pattern that a list says: its kind, its text, its flags, and the text it is written as. -/
def Pattern.ofCompact (data : Data) : Except Failure Pattern :=
  make (if (data.nth 0).string == "re" then .expression else .literal) (data.nth 1).string
    (data.nth 2).strings (data.nth 3).asText?

/-- The terminal that a list says: its name, its pattern, and its priority before the text that the
pattern is written as. -/
def Terminal.ofCompact (data : Data) : Except Failure Terminal := do
  let pattern ← Pattern.ofCompact (.list [data.nth 1, data.nth 2, data.nth 3, data.nth 5])
  return { name := (data.nth 0).string, pattern, priority := (data.nth 4).number }

/-- The symbol that a text says. -/
def Symbol.ofCompact (data : Data) : Symbol :=
  let chars := data.string.toList
  let name := String.ofList (chars.drop 2)
  match chars with
  | 't' :: _ => .terminal name false
  | 'f' :: _ => .terminal name true
  | _ => .nonterminal name

/-- The options that a record says. -/
def RuleOptions.ofCompact (data : Data) : RuleOptions where
  keepAllTokens := (data.get "keep_all_tokens").holds
  expandSingle := (data.get "expand1").holds
  priority := (data.get "priority").present?.map Data.number
  templateSource := (data.get "template_source").asText?
  emptyIndices := (data.get "empty_indices").items.map Data.holds

/-- The rule that a list says: its origin, its expansion, its order, its byname, and its options. -/
def Rule.ofCompact (data : Data) : Rule where
  origin := (data.nth 0).string
  expansion := (data.nth 1).items.map Symbol.ofCompact
  order := (data.nth 2).number
  byname := (data.nth 3).asText?
  options := .ofCompact (data.nth 4)

/-- The state that data says. A text is a name, even if it looks like a number. -/
def State.ofCompact : Data → State
  | .int value => .number value
  | .text it => .name it
  | data => .other data

namespace Table

/-- The action that a list says: `s` with a state, or `r` with the position of a rule. -/
def compactAction (rules : List Rule) (data : Data) : Action State :=
  if (data.nth 0).string == "s" then .shift (.ofCompact (data.nth 1))
  else .reduce (rules[(data.nth 1).count]?.getD default)

/-- The states of some start symbols that a record says. -/
def compactStates (data : Data) : List (String × State) :=
  data.entries.map fun (start, state) => (start, .ofCompact state)

/-- The table over some rules that a record says. -/
def ofCompact (rules : List Rule) (data : Data) : Table State where
  rows := Data.settle ((data.get "states").items.map fun row =>
    (State.ofCompact (row.nth 0), Data.settle ((row.nth 1).items.map fun entry =>
      ((entry.nth 0).string, compactAction rules (entry.nth 1)))))
  starts := compactStates (data.get "start")
  ends := compactStates (data.get "end")

end Table

end Lalr
