import Lalr.Grammar.Symbol

/-!
# Rules

A rule expands a nonterminal, its origin, into a sequence of symbols. Its
options say what shape the trees built for it have. Two rules with the same
origin and the same sequence are the same rule, whatever their options.
-/

namespace Lalr

/-- What shape the trees of a rule have. `emptyIndices` has an entry for each symbol the rule was
written with, true for those that are absent from this expansion. -/
structure RuleOptions where
  keepAllTokens : Bool := false
  expandSingle : Bool := false
  priority : Option Int := none
  templateSource : Option String := none
  emptyIndices : List Bool := []
  deriving DecidableEq, Repr, Inhabited

/-- A rule of a grammar. -/
structure Rule where
  origin : String
  expansion : List Symbol
  order : Int := 0
  byname : Option String := none
  options : RuleOptions := {}
  deriving DecidableEq, Repr, Inhabited

/-- An optional text as messages show it. -/
def shownOptional : Option String → String
  | some text => Text.quoted text
  | none => "None"

/-- The options as messages show them. -/
def RuleOptions.shown (options : RuleOptions) : String :=
  "RuleOptions(" ++ Data.boolShown options.keepAllTokens ++ ", "
    ++ Data.boolShown options.expandSingle ++ ", "
    ++ (match options.priority with
        | some priority => toString priority
        | none => "None")
    ++ ", " ++ shownOptional options.templateSource ++ ")"

namespace Rule

/-- Whether two sequences of symbols are the same. -/
def sameExpansion : List Symbol → List Symbol → Bool
  | [], [] => true
  | a :: as, b :: bs => a.same b && sameExpansion as bs
  | _, _ => false

/-- Whether two rules are the same rule. -/
def same (a b : Rule) : Bool := a.origin == b.origin && sameExpansion a.expansion b.expansion

/-- The rule as it is written in a grammar. -/
def written (rule : Rule) : String :=
  "<" ++ rule.origin ++ " : " ++ Text.joinWith " " (rule.expansion.map Symbol.name) ++ ">"

/-- The rule as messages show it. -/
def shown (rule : Rule) : String :=
  "Rule(" ++ (Symbol.nonterminal rule.origin).shown ++ ", ["
    ++ Text.joinWith ", " (rule.expansion.map Symbol.shown) ++ "], "
    ++ shownOptional rule.byname ++ ", " ++ rule.options.shown ++ ")"

/-- The label of the trees built for the rule, which is also the name under which a handler for it
is looked up: its byname, else the template it was made from, else its origin. -/
def label (rule : Rule) : String :=
  match rule.byname.filter (· != ""), rule.options.templateSource.filter (· != "") with
  | some byname, _ => byname
  | none, some source => source
  | none, none => rule.origin

/-- Whether the rule has a byname that is not empty. -/
def hasByname (rule : Rule) : Bool := rule.byname.any (· != "")

end Rule

end Lalr
