import Lalr.Traversal.Transformer
import Lalr.Shaping.Plan
import Lalr.Shaping.Positions

/-!
# Reductions

What a parse does with the values of a rule's symbols when it reduces by the
rule. Usually it builds a tree; with a transformer at hand it calls a handler
instead, so that the tree is transformed while it is built.
-/

namespace Lalr

/-- The class of nodes that trees are built of. An unusable class is found out as soon as a rule
needs it. -/
inductive NodeClass where
  | plain
  | variant
  | unusable
  deriving DecidableEq, Repr, Inhabited

/-- How trees are built. -/
structure Growth where
  nodes : NodeClass := .plain
  propagation : Propagation := .off
  placeholders : Bool := false
  transformer : Option Transformer := none

namespace Shape

/-- The sequence of children of a node. Only nodes have one. -/
def childrenOf (value : Option Value) : Run SequenceId := do
  match value with
  | some (.node id) => Work.look fun forest => (forest.node id).children
  | some _ => throw (.fault .missingPart)
  | none => throw (.fault .outOfRange)

/-- Adds values at the end of a sequence. -/
def extend (sequence : SequenceId) (values : List Value) : Work Unit :=
  Work.tend fun forest => forest.setItems sequence (forest.items sequence ++ values)

/-- Collects the values that are kept, after those that are in `collected` already. As long as
nothing has been collected, the children of a spliced tree are taken over with their sequence. -/
def collect (values : List Value) (collected : SequenceId) : List KeptChild → Run SequenceId
  | [] => return collected
  | child :: rest => do
    unless child.missing = 0 do
      extend collected (List.replicate child.missing .nothing)
    if child.spliced then
      let spliced ← childrenOf values[child.index]?
      let (found, added) ←
        Work.look fun forest => (forest.items collected, forest.items spliced)
      if found.isEmpty then collect values spliced rest
      else
        extend collected added
        collect values collected rest
    else
      match values[child.index]? with
      | none => throw (.fault .outOfRange)
      | some value =>
        extend collected [value]
        collect values collected rest

/-- The children that a shape makes of some values, which lie in a sequence. -/
def choose (shape : Shape) (values : SequenceId) : Run SequenceId := do
  match shape.selection with
  | none => return values
  | some kept =>
    let items ← Work.look fun forest => forest.items values
    let collected ← collect items (← Work.plant fun forest => forest.addSequence []) kept
    unless shape.missingAfter = 0 do
      extend collected (List.replicate shape.missingAfter .nothing)
    return collected

end Shape

namespace Growth

/-- What is made of the chosen children of a rule: a tree, or whatever a handler makes of them. A
handler that asks for the span of the tree cannot be called before there is a tree. -/
def builder (growth : Growth) (label : String) : Except Failure (SequenceId → Run Value) := do
  match growth.transformer with
  | none =>
    if growth.nodes = .unusable then throw (.fault .wrongKind)
    let variant := growth.nodes == .variant
    return fun children => do
      return .node (← Work.plant fun forest => forest.addNode { label, children, variant })
  | some transformer =>
    match transformer.handlerFor? label with
    | none => return fun children => transformer.rebuild label children none
    | some handler =>
      match handler.convention with
      | some .span | some .spanInline => throw (.refused .spanInInlineHandler)
      | none =>
        let convention := if transformer.kind = .inPlace then some .tree else none
        return fun children => { handler with convention }.apply label children none
      | some _ => return fun children => handler.apply label children none

/-- Reduces the values of a rule's symbols, the first symbol first. -/
def reduce (growth : Growth) (shape : Shape) (build : SequenceId → Run Value)
    (values : List Value) : Run Value := do
  let given ← Work.plant fun forest => forest.addSequence values
  let children ← shape.choose given
  let chosen ← Work.look fun forest => forest.items children
  let result ←
    match shape.unwraps, chosen with
    | true, [only] => pure only
    | _, _ => build children
  match growth.propagation, result with
  | .off, _ => return result
  | propagation, .node id =>
    Work.tend fun forest => forest.locate propagation id (forest.items given)
    return result
  | _, _ => return result

end Growth

/-- What a parse does when it reduces by a rule or shifts a token. -/
structure Reductions where
  rules : List (Rule × (List Value → Run Value))
  tokens : List (String × TokenHandler) := []

namespace Reductions

/-- The reduction for a rule. -/
def find? (reductions : Reductions) (rule : Rule) : Option (List Value → Run Value) :=
  (reductions.rules.find? fun entry => entry.1.same rule).map (·.2)

/-- Whether there is nothing at all to do. -/
def isEmpty (reductions : Reductions) : Bool :=
  reductions.rules.isEmpty && reductions.tokens.isEmpty

/-- Reduces by a rule. Where there is nothing at all to do, the values stay together as a
sequence. -/
def reduce (reductions : Reductions) (rule : Rule) (values : List Value) : Run Value := do
  match reductions.find? rule with
  | some reduction => reduction values
  | none =>
    if reductions.isEmpty then
      return .sequence (← Work.plant fun forest => forest.addSequence values)
    else throw (.fault .missingEntry)

/-- Makes the value of a shifted token. -/
def shift (reductions : Reductions) (token : Token) : Run Value :=
  match assoc? reductions.tokens token.kind with
  | some callback => callback token
  | none => return .token token

/-- The reductions of some rules, each with its shape. No two of them may be the same rule. -/
def ofShapes (growth : Growth) : List (Rule × Shape) → List
    (Rule × (List Value → Run Value)) →
    Except Failure (List (Rule × (List Value → Run Value)))
  | [], made => return made.reverse
  | (rule, shape) :: rest, made => do
    let build ← growth.builder rule.label
    if made.any fun entry => entry.1.same rule then
      throw (.grammar (.duplicateRule rule.written))
    ofShapes growth rest ((rule, growth.reduce shape build) :: made)

/-- The reductions of some rules, and the handlers for tokens of some kinds if there is a
transformer. -/
def make (growth : Growth) (rules : List Rule) (kinds : List String) :
    Except Failure Reductions := do
  let shapes ← rules.mapM fun rule => return (rule, ← Shape.ofRule rule growth.placeholders)
  let reductions ← ofShapes growth shapes []
  let tokens :=
    match growth.transformer with
    | none => []
    | some transformer =>
      kinds.filterMap fun kind =>
        (transformer.handlerFor? kind).map fun handler =>
          (kind, fun token => handler.call [.token token])
  return { rules := reductions, tokens }

end Reductions

end Lalr
