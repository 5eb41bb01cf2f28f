import Lalr.Data.Shown
import Lalr.Unicode.Case

/-!
# Symbols

A symbol is a terminal, which stands for tokens of one kind, or a nonterminal,
which rules expand. A terminal may be marked as one whose tokens are left out
of trees; the mark does not make it another symbol.
-/

namespace Lalr

/-- A symbol of a grammar. -/
inductive Symbol where
  | terminal (name : String) (filteredOut : Bool)
  | nonterminal (name : String)
  deriving DecidableEq, Repr, Inhabited

namespace Symbol

/-- The name of a symbol. -/
def name : Symbol → String
  | .terminal name _ => name
  | .nonterminal name => name

/-- Whether the symbol is a terminal. -/
def isTerminal : Symbol → Bool
  | .terminal _ _ => true
  | .nonterminal _ => false

/-- Whether tokens of the symbol are left out of trees. -/
def isFilteredOut : Symbol → Bool
  | .terminal _ filteredOut => filteredOut
  | .nonterminal _ => false

/-- Whether two symbols are the same symbol. -/
def same (a b : Symbol) : Bool := a.isTerminal == b.isTerminal && a.name == b.name

/-- The symbol under another name. -/
def rename (f : String → String) : Symbol → Symbol
  | .terminal name filteredOut => .terminal (f name) filteredOut
  | .nonterminal name => .nonterminal (f name)

/-- The symbol as messages show it. -/
def shown : Symbol → String
  | .terminal name _ => "Terminal(" ++ Text.quoted name ++ ")"
  | .nonterminal name => "NonTerminal(" ++ Text.quoted name ++ ")"

/-- The symbol with all it holds. -/
def fullShown : Symbol → String
  | .terminal name filteredOut =>
    "Terminal(" ++ Text.quoted name ++ ", " ++ Data.boolShown filteredOut ++ ")"
  | .nonterminal name => "NonTerminal(" ++ Text.quoted name ++ ")"

end Symbol

/-- Whether a symbol name in a table is that of a terminal: terminals are named in upper case. -/
def isTerminalName (name : String) : Bool := Unicode.isUpperText name

end Lalr
