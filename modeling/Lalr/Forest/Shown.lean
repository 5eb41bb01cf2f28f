import Lalr.Forest.Basic
import Lalr.Text.Lines

/-!
# Trees as text

Three ways to write a tree: on one line as messages show it, one line for each
node with its leaf beside it, and one line for each node with its span.
-/

namespace Lalr

/-- An optional number as messages show it. -/
def shownPosition : Option Nat → String
  | some position => toString position
  | none => "None"

/-- A span as messages show it. -/
def Span.shown (span : Span) : String :=
  if span.isEmpty then "Meta(empty)"
  else
    "Meta(" ++ shownPosition span.own.line ++ ":" ++ shownPosition span.own.column ++ "-"
      ++ shownPosition span.own.endLine ++ ":" ++ shownPosition span.own.endColumn ++ ")"

namespace Forest

/-- A value as messages show it. What lies deeper than `depth` is left out. -/
def shownTo (forest : Forest) : Nat → Value → String
  | _, .nothing => "None"
  | _, .flag value => Data.boolShown value
  | _, .number value => toString value
  | _, .text value => Text.quoted value
  | _, .token token => token.shown
  | _, .span id => (forest.span id).shown
  | _, .discard => "shiftreduce.visitors.Discard"
  | _, .foreign kind => "<" ++ kind ++ " object>"
  | 0, .node _ => "..."
  | 0, .sequence _ => "[...]"
  | depth + 1, .node id =>
    "Tree(" ++ Text.quoted (forest.label id) ++ ", ["
      ++ Text.joinWith ", " ((forest.children id).map (forest.shownTo depth)) ++ "])"
  | depth + 1, .sequence id =>
    "[" ++ Text.joinWith ", " ((forest.items id).map (forest.shownTo depth)) ++ "]"

/-- A value as messages show it. -/
def shown (forest : Forest) (value : Value) : String := forest.shownTo forest.depthBound value

/-- A value as it stands in running text. -/
def plain (forest : Forest) (value : Value) : String :=
  match value with
  | .text value => value
  | .token token => token.text
  | value => forest.shown value

/-- A text some number of times over. -/
def repeated (count : Nat) (text : String) : String :=
  String.join (List.replicate count text)

/-- The lines of a tree, each with its line break. A node whose only child is a leaf has the leaf on
its own line, after a tab. -/
def outlineTo (forest : Forest) (indent : String) : Nat → Nat → NodeId → List String
  | 0, _, _ => []
  | depth + 1, level, id =>
    let label := repeated level indent ++ forest.label id
    match forest.children id with
    | [.node child] => (label ++ "\n") :: forest.outlineTo indent depth (level + 1) child
    | [leaf] => [label ++ "\t" ++ forest.plain leaf ++ "\n"]
    | children =>
      (label ++ "\n") :: children.flatMap fun child =>
        match child with
        | .node child => forest.outlineTo indent depth (level + 1) child
        | leaf => [repeated (level + 1) indent ++ forest.plain leaf ++ "\n"]

/-- A tree with one line for each node, indented by its depth. -/
def outline (forest : Forest) (id : NodeId) (indent : String := "  ") : String :=
  String.join (forest.outlineTo indent forest.depthBound 0 id)

/-- A stretch of text from one offset to another, if it is known where it starts. -/
def stretch : Option Nat → Option Nat → String
  | none, _ => ""
  | some start, stop => " [" ++ toString start ++ ", " ++ shownPosition stop ++ ")"

/-- The lines of a tree with the kinds of its tokens and the text that each node covers. -/
def spannedLinesTo (forest : Forest) : Nat → Nat → Value → List String
  | depth + 1, indent, .node id =>
    let own := (forest.spanOf id).own
    (repeated indent " " ++ forest.label id ++ stretch own.startPos own.endPos)
      :: (forest.children id).flatMap (forest.spannedLinesTo depth (indent + 2))
  | _, indent, .token token =>
    [repeated indent " " ++ token.kind ++ ":" ++ Text.quoted token.text
      ++ stretch token.place.startPos token.place.endPos]
  | _, indent, value => [repeated indent " " ++ forest.shown value]

/-- The lines of a tree with the kinds of its tokens and the text that each node covers. -/
def spannedLines (forest : Forest) (id : NodeId) : List String :=
  forest.spannedLinesTo forest.depthBound 0 (.node id)

end Forest

end Lalr
