import Lalr.Text.Lines

/-!
# Excerpts around a position

The line of a text around a position, cut to some width on either side, with a
caret below the position.
-/

namespace Lalr.Text

/-- The excerpt of `text` around `position`, with at most `span` characters on either side. Tabs
before the position count as the spaces they stand for. -/
def context (text : String) (position span : Nat) : String :=
  let chars := text.toList
  let start := position - span
  let before := afterLastBreak ((chars.drop start).take (position - start))
  let after := beforeFirstBreak ((chars.drop position).take span)
  String.ofList (before ++ after) ++ "\n"
    ++ String.ofList (List.replicate (expandedLength 0 0 before) ' ') ++ "^\n"

end Lalr.Text
