import Lalr.Failure

/-!
# Shapes of rules

What becomes of the values of a rule's symbols is settled once for each rule:
which of them are left out, which are replaced by their own children, and where
something that could have stood there is missing.
-/

namespace Lalr

/-- A symbol whose value is kept. `missing` is how many placeholders go in front of it, and a
spliced value is replaced by its children. -/
structure KeptChild where
  index : Nat
  spliced : Bool
  missing : Nat
  deriving DecidableEq, Repr, Inhabited

/-- What a rule makes of the values of its symbols. Without a selection they are taken as they are;
`missingAfter` is how many placeholders follow the last. A rule that unwraps is replaced by its
child if it ends up with just one. -/
structure Shape where
  selection : Option (List KeptChild)
  missingAfter : Nat := 0
  unwraps : Bool := false
  deriving DecidableEq, Repr, Inhabited

namespace Shape

/-- Whether the tree of a symbol is replaced by its children. -/
def isSpliced : Symbol → Bool
  | .terminal _ _ => false
  | .nonterminal name => name.toList.head? == some '_'

/-- The lengths of the runs of true in front of each false, and after the last. -/
def runsOfTrue : List Bool → List Nat
  | [] => [0]
  | false :: rest => 0 :: runsOfTrue rest
  | true :: rest =>
    match runsOfTrue rest with
    | [] => [1]
    | count :: counts => (count + 1) :: counts

/-- The symbols that are kept, from position `index` on. `missing` counts the placeholders that wait
for a symbol to stand in front of; `gaps` has those in front of each symbol and after the last. -/
def select (keepAll : Bool) (index missing : Nat) : List Symbol → List Nat →
    List KeptChild × Nat
  | [], gaps => ([], missing + gaps.headD 0)
  | symbol :: rest, gaps =>
    let missing := missing + gaps.headD 0
    if keepAll || !symbol.isFilteredOut then
      let (kept, after) := select keepAll (index + 1) 0 rest gaps.tail
      ({ index, spliced := isSpliced symbol, missing } :: kept, after)
    else select keepAll (index + 1) missing rest gaps.tail

/-- The shape of a rule. If placeholders are wanted, the rule says for each symbol it was written
with whether it is missing, and has to account for each symbol it has. -/
def ofRule (rule : Rule) (placeholders : Bool) : Except Failure Shape := do
  let missing := if placeholders then rule.options.emptyIndices else []
  unless missing.isEmpty || missing.count false = rule.expansion.length do
    throw (.fault .brokenPromise)
  let gaps := if missing.isEmpty then [] else runsOfTrue missing
  let (kept, after) := select rule.options.keepAllTokens 0 0 rule.expansion gaps
  let unwraps := rule.options.expandSingle && !rule.hasByname
  if !missing.isEmpty || kept.length < rule.expansion.length || kept.any KeptChild.spliced then
    return { selection := some kept, missingAfter := after, unwraps }
  else return { selection := none, unwraps }

end Shape

end Lalr
