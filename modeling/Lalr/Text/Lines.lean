/-!
# Lines and columns of text

Small functions on lists of characters that deal with line breaks, tab stops and
columns of fixed width.
-/

namespace Lalr.Text

/-- The characters after the last line break, or all of them if there is none. -/
def afterLastBreak (chars : List Char) : List Char :=
  (chars.reverse.takeWhile (· != '\n')).reverse

/-- The characters before the first line break, or all of them if there is none. -/
def beforeFirstBreak (chars : List Char) : List Char :=
  chars.takeWhile (· != '\n')

/-- The number of characters in `chars` once each tab has been replaced by spaces up to the next
multiple of eight. A line break counts and sends the column back to the margin. -/
def expandedLength (column total : Nat) : List Char → Nat
  | [] => total
  | '\t' :: rest =>
    let gap := 8 - column % 8
    expandedLength (column + gap) (total + gap) rest
  | '\n' :: rest => expandedLength 0 (total + 1) rest
  | '\r' :: rest => expandedLength 0 (total + 1) rest
  | _ :: rest => expandedLength (column + 1) (total + 1) rest

/-- The text followed by as many spaces as it lacks to fill `width` columns. -/
def padEnd (width : Nat) (text : String) : String :=
  text ++ String.ofList (List.replicate (width - text.length) ' ')

/-- The texts with `separator` between any two neighbours. -/
def joinWith (separator : String) (texts : List String) : String :=
  String.intercalate separator texts

end Lalr.Text
