import Lalr.Workspace

/-!
# Positions of trees

A tree that is built gets its position from the first and the last of the values
it is built from that have one. What has been left out of the tree counts for
its container only.
-/

namespace Lalr

/-- Which values count for the position of a tree: none, so that trees have no positions, all, or
all but the tokens of some kinds and the trees with some labels. -/
inductive Propagation where
  | off
  | all
  | skipping (names : List String)
  deriving DecidableEq, Repr, Inhabited

namespace Propagation

/-- Whether a value counts. -/
def counts (propagation : Propagation) (forest : Forest) (value : Value) : Bool :=
  match propagation, value with
  | .off, _ => false
  | .all, _ => true
  | .skipping names, .token token => !names.contains token.kind
  | .skipping names, .node id => !names.contains (forest.label id)
  | .skipping _, _ => true

end Propagation

namespace Span

/-- The place of a span as its container sees it. -/
def outerPlace (span : Span) : Place where
  startPos := span.container.startPos <|> span.own.startPos
  line := span.container.line <|> span.own.line
  column := span.container.column <|> span.own.column
  endLine := span.container.endLine <|> span.own.endLine
  endColumn := span.container.endColumn <|> span.own.endColumn
  endPos := span.container.endPos <|> span.own.endPos

/-- The span with the beginning of its container moved to a place. Its own beginning is set if it is
not known yet. -/
def beginAt (span : Span) (place : Place) : Span :=
  let span :=
    if span.own.line.isNone then
      { span with
        isEmpty := false
        own := { span.own with
          line := place.line, column := place.column, startPos := place.startPos } }
    else span
  { span with
    container := { span.container with
      line := place.line, column := place.column, startPos := place.startPos } }

/-- The span with the end of its container moved to a place. Its own end is set if it is not known
yet. -/
def endAt (span : Span) (place : Place) : Span :=
  let span :=
    if span.own.endLine.isNone then
      { span with
        isEmpty := false
        own := { span.own with
          endLine := place.endLine, endColumn := place.endColumn, endPos := place.endPos } }
    else span
  { span with
    container := { span.container with
      endLine := place.endLine, endColumn := place.endColumn, endPos := place.endPos } }

end Span

namespace Forest

/-- The place of a value, if it has one. -/
def place? (forest : Forest) : Value → Option Place
  | .token token => some token.place
  | .node id =>
    let span := forest.spanOf id
    if span.isEmpty then none else some span.outerPlace
  | _ => none

/-- The place of the first value that counts and has one. -/
def firstPlace? (forest : Forest) (propagation : Propagation) (values : List Value) :
    Option Place :=
  (values.filter (propagation.counts forest)).findSome? forest.place?

/-- The forest after a node has got its position from some values. -/
def locate (forest : Forest) (propagation : Propagation) (id : NodeId) (values : List Value) :
    Forest :=
  let (span, forest) := forest.openSpan id
  let forest :=
    match forest.firstPlace? propagation values with
    | some place => forest.setSpan span ((forest.span span).beginAt place)
    | none => forest
  match forest.firstPlace? propagation values.reverse with
  | some place => forest.setSpan span ((forest.span span).endAt place)
  | none => forest

end Forest

end Lalr
