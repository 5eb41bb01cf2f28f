import Lalr.Traversal.Handler

/-!
# Interpreters

An interpreter leaves it to the handler of a node which nodes below it are
interpreted, if any, and in which order. A node without a handler has all of
its children interpreted.
-/

namespace Lalr

/-- How a node is interpreted. -/
abbrev Interpretation := NodeId → Run Value

/-- A handler of an interpreter, which is given the means to interpret other nodes. Without a
convention it is called with the node. -/
structure Interpreting where
  convention : Option Convention := none
  call : Interpretation → List Value → Run Value

/-- An interpreter: a handler for each label it cares about, and what is done for the others. -/
structure Interpreter where
  handlers : List (String × Interpreting) := []
  fallback : Option Interpretation := none

namespace Interpreter

/-- The children of a node with the nodes among them interpreted. -/
def childValues (interpret : Interpretation) (id : NodeId) : Run (List Value) := do
  (← Work.look fun forest => forest.children id).mapM fun child =>
    match child with
    | .node child => interpret child
    | leaf => return leaf

/-- Has a handler interpret a node. -/
def apply (handler : Interpreting) (interpret : Interpretation) (id : NodeId) : Run Value := do
  match handler.convention with
  | none => handler.call interpret [.node id]
  | some convention =>
    let span ← Work.plant fun forest => forest.openSpan id
    let node ← Work.look fun forest => forest.node id
    handler.call interpret
      (← Handler.arguments (some convention) node.label node.children (some span))

/-- Interprets a node. What lies deeper than `limit` is not interpreted. -/
def interpret (interpreter : Interpreter) : Nat → Interpretation
  | 0, id => return .node id
  | limit + 1, id => do
    match assoc? interpreter.handlers (← Work.look fun forest => forest.label id) with
    | some handler => apply handler (interpreter.interpret limit) id
    | none =>
      match interpreter.fallback with
      | some fallback => fallback id
      | none =>
        let values ← childValues (interpreter.interpret limit) id
        return .sequence (← Work.plant fun forest => forest.addSequence values)

end Interpreter

end Lalr
