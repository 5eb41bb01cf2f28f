import Lalr.Artifact.Objects
import Lalr.Forest.Document
import Lalr.Parser.Basic

/-!
# Descriptions

What there is to say about patterns, terminals, rows of a table and whole parsers,
as data.
-/

namespace Lalr

/-- The regular expression of a pattern, the pattern as the grammar has it, and the least and the
greatest length of what it matches. -/
def Pattern.description (pattern : Pattern) : Except Failure (List (String × Data)) := do
  let width ← pattern.width
  return [("min", .int width.least), ("max", .int width.most),
    ("regexp", .text pattern.expression), ("raw", optionalText pattern.raw)]

/-- A terminal with its pattern. -/
def Terminal.description (terminal : Terminal) : Except Failure Data := do
  let pattern ← terminal.pattern.description
  return .record (pattern ++ [("name", .text terminal.name), ("repr", .text terminal.shown),
    ("user_repr", .text terminal.userShown), ("priority", .ofInteger terminal.priority),
    ("flags", .list (terminal.pattern.flags.letters.map .text))])

/-- The entries of a row. A shift is `s` and the state, a reduction is `r` and the rule as it is
written. -/
def Row.description (row : Row State) : Data :=
  .list (row.map fun (symbol, action) =>
    .list [.text symbol, match action with
      | .shift target => .list [.text "s", target.toData.document]
      | .reduce rule => .list [.text "r", .text rule.written]])

/-- A parser with the names of its terminals, its rules and its options. -/
def Parser.description (parser : Parser) : Data :=
  .record [("repr", .text parser.shown),
    ("terminals", .list (parser.terminals.map fun terminal => .text terminal.name)),
    ("rules", .list (parser.rules.map fun rule => .text rule.written)),
    ("ignore", .list (parser.ignored.map .text)), ("states", .int parser.table.rows.length),
    ("options", parser.options.toData)]

end Lalr
