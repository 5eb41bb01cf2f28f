import Lalr.Forest.Document

/-!
# Searching values

What is searched for is described by what it has to have: the kind of a token, a
text, or a number of children.
-/

namespace Lalr

/-- What a value has to have. What is missing is not asked for. -/
structure Criterion where
  kind : Option String := none
  text : Option String := none
  leastChildren : Option Nat := none
  deriving DecidableEq, Repr, Inhabited

/-- The criterion that a document says. -/
def Criterion.ofDocument (data : Data) : Criterion where
  kind := (data.get "type").asText?
  text := (data.get "text").asText?
  leastChildren := (data.get "min_kids").count?

namespace Forest

/-- The text of a token or of a bare text. -/
def textOf? : Value → Option String
  | .token it => some it.text
  | .text it => some it
  | _ => none

/-- Whether a value is a tree with at least so many children. -/
def hasChildren (forest : Forest) (least : Nat) : Value → Bool
  | .node id => least ≤ (forest.children id).length
  | _ => false

/-- Whether a value has what a criterion asks for. -/
def meets (forest : Forest) (criterion : Criterion) (value : Value) : Bool :=
  criterion.kind.all (fun kind =>
      match value with
      | .token it => it.kind == kind
      | _ => false)
    && criterion.text.all (fun text => textOf? value == some text)
    && criterion.leastChildren.all (fun least => forest.hasChildren least value)

end Forest

end Lalr
