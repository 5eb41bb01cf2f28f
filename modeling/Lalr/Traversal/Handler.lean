import Lalr.Workspace

/-!
# Handlers

A handler is called for a tree with a certain label or a token of a certain
kind. Its convention says what it is called with.
-/

namespace Lalr

/-- What a handler for a tree is called with. Without a convention it gets the sequence of
children. -/
inductive Convention where
  | inline
  | span
  | spanInline
  | tree
  | labelled
  deriving DecidableEq, Repr, Inhabited

/-- The convention that some switches ask for. A handler that wants the tree gets nothing else
beside it, and neither does one with a convention of its own making, which is called with the label
before the children. -/
def Convention.ofSwitches (inline span tree labelled : Bool) :
    Except Failure (Option Convention) :=
  if tree && (span || inline) then .error (.refused .treeWithOthers)
  else if labelled && (inline || span || tree) then .error (.refused .customWithOthers)
  else
    .ok (
      if span then some (if inline then .spanInline else .span)
      else if inline then some .inline
      else if tree then some .tree
      else if labelled then some .labelled
      else none)

/-- What is called with a token. -/
abbrev TokenHandler := Token → Run Value

/-- A handler. -/
structure Handler where
  convention : Option Convention := none
  call : List Value → Run Value

namespace Handler

/-- What a handler with some convention is called with for a tree. -/
def arguments (convention : Option Convention) (label : String) (children : SequenceId)
    (span : Option SpanId) : Work (List Value) := do
  let spanValue : Value :=
    match span with
    | some span => .span span
    | none => .nothing
  match convention with
  | none => return [.sequence children]
  | some .span => return [spanValue, .sequence children]
  | some .inline => Work.look fun forest => forest.items children
  | some .spanInline => Work.look fun forest => spanValue :: forest.items children
  | some .labelled => Work.look fun forest => .text label :: forest.items children
  | some .tree =>
    let node ← Work.plant fun forest => forest.addNode { label, children, span }
    return [.node node]

/-- Calls a handler by its convention. -/
def apply (handler : Handler) (label : String) (children : SequenceId) (span : Option SpanId) :
    Run Value := do
  handler.call (← arguments handler.convention label children span)

end Handler

end Lalr
