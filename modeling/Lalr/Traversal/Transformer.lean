import Lalr.Forest.Order
import Lalr.Traversal.Handler

/-!
# Transformers

A transformer works on a tree bottom up: what a handler makes of a node takes
the place of the node, and a discarded node takes no place at all. There are
four ways to go about it, with and without recursion, with new nodes and in the
nodes that are there.
-/

namespace Lalr

/-- How a transformer goes about it. A copying transformer leaves the tree as it is; one in place
puts the results into it, either by recursion or going once through the nodes of the tree. -/
inductive TransformerKind where
  | copying
  | flat
  | inPlace
  | inPlaceRecursive
  deriving DecidableEq, Repr, Inhabited

/-- A transformer: a handler for each label and for each kind of token it cares about, and what is
done for the others. The fallback for a label is called with the label, the children and the
span. -/
structure Transformer where
  kind : TransformerKind := .copying
  handlers : List (String × Handler) := []
  visitsTokens : Bool := true
  fallback : Option (List Value → Run Value) := none
  tokenFallback : Option TokenHandler := none

namespace Transformer

/-- The handler for a label or a kind of token. -/
def handlerFor? (transformer : Transformer) (name : String) : Option Handler :=
  assoc? transformer.handlers name

/-- What is made of a tree without a handler: a new node like the one that was there, unless there
is a fallback. -/
def rebuild (transformer : Transformer) (label : String) (children : SequenceId)
    (span : Option SpanId) : Run Value := do
  match transformer.fallback with
  | some fallback =>
    fallback [.text label, .sequence children,
      match span with
      | some span => .span span
      | none => .nothing]
  | none => return .node (← Work.plant fun forest => forest.addNode { label, children, span })

/-- Calls a handler for a tree or a token. Unless the handler blames the grammar, its failure is
reported together with what it was called for. -/
def reporting (name : String) (subject : Value) (call : Run Value) : Run Value :=
  tryCatch call fun failure =>
    throw (if failure.isGrammar then failure else .visit name subject failure)

/-- What is made of a node whose children have been transformed already. -/
def transformNode (transformer : Transformer) (id : NodeId) (children : SequenceId) :
    Run Value := do
  let label ← Work.look fun forest => forest.label id
  let span ← Work.plant fun forest => forest.openSpan id
  match transformer.handlerFor? label with
  | none => transformer.rebuild label children (some span)
  | some handler =>
    reporting label (.node id) <|
      if transformer.kind = .inPlace && handler.convention.isNone then handler.call [.node id]
      else handler.apply label children (some span)

/-- What is made of a token. -/
def transformToken (transformer : Transformer) (token : Token) : Run Value :=
  match transformer.handlerFor? token.kind with
  | none =>
    match transformer.tokenFallback with
    | some fallback => fallback token
    | none => return .token token
  | some handler => reporting token.kind (.token token) (handler.call [.token token])

/-- What is made of a value, given what is made of a node. -/
def transformValue (transformer : Transformer) (descend : NodeId → Run Value) (value : Value) :
    Run Value :=
  match value with
  | .node id => descend id
  | .token token =>
    if transformer.visitsTokens then transformer.transformToken token else pure value
  | _ => pure value

/-- A step of an iteration. A failure in it that says that an iteration is over does not end this
one, but becomes a fault. -/
def iterating {α : Type} (step : Run α) : Run α :=
  tryCatch step fun failure => throw (if failure.isStop then .fault .strayStop else failure)

/-- What is made of some values one after the other, without those that are discarded. -/
def transformValues (transformer : Transformer) (descend : NodeId → Run Value) :
    List Value → Run (List Value)
  | [] => return []
  | value :: rest => do
    match ← iterating (transformer.transformValue descend value) with
    | .discard => transformer.transformValues descend rest
    | result => return result :: (← transformer.transformValues descend rest)

/-- What is made of a tree by recursion, as far down as `depth`. -/
def transformTo (transformer : Transformer) : Nat → NodeId → Run Value
  | 0, id => return .node id
  | depth + 1, id => do
    let children ← Work.look fun forest => forest.children id
    let results ← transformer.transformValues (transformer.transformTo depth) children
    if transformer.kind = .inPlaceRecursive then
      Work.tend fun forest => forest.replaceChildren id results
      transformer.transformNode id (← Work.look fun forest => (forest.node id).children)
    else
      transformer.transformNode id (← Work.plant fun forest => forest.addSequence results)

/-- The values of a tree, a node before what is below it and the last child first, each node as
often as it occurs. -/
def lastFirst (forest : Forest) : Nat → Value → List Value
  | depth + 1, .node id =>
    .node id :: (forest.children id).reverse.flatMap (lastFirst forest depth)
  | _, value => [value]

/-- Transforms values of which each comes after everything below it. What has been made so far lies
on a stack, the last first, where a node finds what was made of its children. -/
def transformStack (transformer : Transformer) : List Value → List Value → Run (List Value)
  | [], made => return made
  | .node id :: rest, made => do
    let size := (← Work.look fun forest => forest.children id).length
    let arguments := (made.take size).reverse.filter (· ≠ .discard)
    let children ← Work.plant fun forest => forest.addSequence arguments
    let result ← transformer.transformNode id children
    transformer.transformStack rest (result :: made.drop size)
  | value :: rest, made => do
    let result ← transformer.transformValue (return .node ·) value
    transformer.transformStack rest (result :: made)

/-- Puts what is made of the children of a node into its place. -/
def transformChildren (transformer : Transformer) (id : NodeId) : Run Unit := do
  let children ← Work.look fun forest => forest.children id
  let results ←
    transformer.transformValues
      (fun child => do
        transformer.transformNode child (← Work.look fun forest => (forest.node child).children))
      children
  Work.tend fun forest => forest.replaceChildren id results

/-- A discarded root leaves nothing. -/
def orNothing : Value → Value
  | .discard => .nothing
  | value => value

/-- What a transformer makes of a value. -/
def transform (transformer : Transformer) (value : Value) : Run Value := do
  let depth ← Work.look fun forest => forest.depthBound
  match transformer.kind with
  | .copying | .inPlaceRecursive =>
    return orNothing (← iterating
      (transformer.transformValue (transformer.transformTo depth) value))
  | .flat =>
    let values ← Work.look fun forest => (lastFirst forest depth value).reverse
    match ← transformer.transformStack values [] with
    | [result] => return orNothing result
    | _ => throw (.fault .malformedValue)
  | .inPlace =>
    match value with
    | .node id =>
      let nodes ← Work.look fun forest => forest.bottomUp id
      nodes.forM transformer.transformChildren
      transformer.transformNode id (← Work.look fun forest => (forest.node id).children)
    | _ => throw (.fault .missingPart)

/-- What some transformers make of a value, one after the other. -/
def transformInTurn : List Transformer → Value → Run Value
  | [], value => return value
  | transformer :: rest, value => do transformInTurn rest (← transformer.transform value)

end Transformer

end Lalr
